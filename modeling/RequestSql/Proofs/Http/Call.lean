import RequestSql.Proofs.Http.BodyLimit
import RequestSql.Proofs.Json.Read

/-!
# Calls to compile

A call is a message to the endpoint that compiles, with a body of JSON within the limit and at most
a dialect in its query. Its chunks come together as one body, the body is read as its value, and the
query asks for the dialect and nothing else.
-/

namespace RequestSql.Http

/-- The message asks to compile the value, for the dialect if it names one. A length that it
declares is the one that it has, the value has only finite numbers, and its texts have no halves of
pairs. A body that the reader refuses makes no call: one that is not JSON, and also one with an
integer of more than `Decimal.maxDigits` digits or with lists and maps nested deeper than
`Json.maxNesting`. -/
structure IsCompileCall (r : Request) (v : Value) (dialect : Option String) : Prop where
  method : r.method = "POST"
  path : r.path = "/compile"
  contentType : ∃ header, r.header? "content-type" = some header ∧
    Body.isJson (Body.mediaType header) = true
  length : ∀ header, r.header? "content-length" = some header →
    BodyLimit.declaredLength header = .ok (some (BodyLimit.totalSize r.chunks))
  limit : BodyLimit.totalSize r.chunks ≤ BodyLimit.maxBytes
  body : Body.readJson r.bytes = .ok { value := v, block := none }
  finite : v.hasNonFinite = false
  query : Query.parameters r.query = (dialect.map fun d => ("dialect", d)).toList

example : Body.isJson (Body.mediaType "application/json") = true := by decide

theorem Body.isEmpty_of_readJson {bytes : ByteArray} {p : Body.Parsed}
    (h : Body.readJson bytes = .ok p) : bytes.isEmpty = false := by
  refine Bool.eq_false_iff.mpr fun hempty => ?_
  have hbytes : bytes = .empty := ByteArray.size_eq_zero_iff.mp (eq_of_beq hempty)
  have hnumbers : Json.numbersOf? .empty = some [] := by decide +kernel
  have hmalformed : Body.readJson .empty = .error (.malformed .expectedValue 0) := by
    rw [Body.readJson, hnumbers]
    rfl
  rw [hbytes, hmalformed] at h
  cases h

theorem Body.isShortJson_of_readJson {bytes : ByteArray} {p : Body.Parsed}
    (h : Body.readJson bytes = .ok p) : p.value.IsShortJson := by
  unfold Body.readJson at h
  split at h
  · cases h
  · dsimp only at h
    split at h
    · rename_i v hread
      obtain rfl := Except.ok.inj h
      exact Json.isShortJson_read hread
    · cases h
    · cases h
    · cases h

namespace IsCompileCall

variable {r : Request} {v : Value} {dialect : Option String} (h : IsCompileCall r v dialect)

include h

theorem accept : BodyLimit.accept r = .ok (some r.bytes) := by
  have hcollect : BodyLimit.collect .empty r.chunks = some r.bytes :=
    BodyLimit.collect_eq_some (by rw [ByteArray.size_empty, Nat.zero_add]; exact h.limit)
  have hreads : BodyLimit.readsBody r.method = true := by
    rw [h.method]
    decide
  unfold BodyLimit.accept
  cases hlength : r.header? "content-length" with
  | none => simp [hreads, hcollect]
  | some header => simp [h.length header hlength, Nat.not_lt.mpr h.limit, hreads, hcollect]

theorem route : Route.of r.method r.path = .found .compile := by
  rw [h.method, h.path]
  rfl

theorem readBody : Body.read (r.header? "content-type") r.bytes = .ok (some { value := v }) := by
  obtain ⟨header, hheader, hjson⟩ := h.contentType
  rw [Body.read, Body.isEmpty_of_readJson h.body, hheader, Option.any_some, hjson, h.body]
  rfl

theorem options : Options.read r.query = .ok ⟨RequestSql.Request.nonempty dialect, false⟩ := by
  have hdialect : Query.value? r.query "dialect" = dialect := by
    rw [Query.value?, h.query]
    cases dialect with
    | none => rfl
    | some d => rfl
  have hpretty : Query.value? r.query "pretty" = none := by
    rw [Query.value?, h.query]
    cases dialect with
    | none => rfl
    | some d => rfl
  simp only [Options.read, hdialect, hpretty]
  rfl

/-- The reply to a call: faults if the value is no request, or what compiling the request gives. -/
theorem serve {s : Service} {engine : Engine} (hengine : s.engine = some engine) :
    Http.serve s r = match RequestSql.Request.read v with
      | .faulty faults => faultsReply none (faults.map inBody)
      | .ok q => compileReply s.tools none s.registry engine
          ⟨RequestSql.Request.nonempty dialect, false⟩ q := by
  have hrequest : readRequest (some { value := v }) =
      (RequestSql.Request.read v).mapFaults inBody := rfl
  have hserve : Http.serve s r = compile s r r.bytes := by
    rw [Http.serve, h.accept]
    simp only [dispatch, h.route]
    rfl
  rw [hserve, compile, h.readBody]
  simp only [hengine, h.options, hrequest]
  cases RequestSql.Request.read v with
  | ok q => rfl
  | faulty faults => rfl

end IsCompileCall

end RequestSql.Http
