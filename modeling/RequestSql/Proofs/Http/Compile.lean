import RequestSql.Proofs.Http.Call
import RequestSql.Proofs.Pipeline.Outcome
import RequestSql.Proofs.Statement.Metadata
import RequestSql.Proofs.Value.Finite

/-!
# The endpoint and the pipeline

What the endpoint replies to a call is what the pipeline makes of the value: faults are told as
faults, failures as envelopes with their codes and messages, and a result field by field, with its
maps in their order. No reply of these fails to be encoded, because all numbers in it are finite.
-/

namespace RequestSql

/-- The record of metadata, parameters as they are. -/
def Metadata.toRecord : Metadata → Value
  | .select shortName params joins filter ordering => .record [
      ("table_alias", .text shortName), ("where_params", .record params.entries),
      ("has_joins", .bool joins), ("has_where", .bool filter), ("has_order_by", .bool ordering)]
  | .insert columns count => .record [
      ("columns", .list (columns.map .text)), ("value_count", .int count)]
  | .update fields params => .record [
      ("update_fields", .list (fields.map .text)), ("where_params", .record params.entries)]
  | .delete soft params => .record [
      ("delete_type", .text (if soft then "soft" else "hard")),
      ("where_params", .record params.entries)]

/-- The record of a trace, parameters as they are. -/
def Trace.toRecord (t : Trace) : Value :=
  .record [("input_keys", .list (t.inputKeys.map .text)),
    ("path_params", .record t.pathParams.entries), ("query_params", .record t.queryParams.entries),
    ("body_keys", .list (t.bodyKeys.map .text)), ("has_joins", .bool t.hasJoins),
    ("select_columns", .list (t.columns.map .text))]

namespace Http

/-- The value tells the result, field by field. -/
structure Tells (v : Value) (result : Pipeline.Result) : Prop where
  sql : v.field "sql" = some (.text result.statement.sql)
  operation : v.field "operation" = some (.text result.statement.operation.text)
  method : v.field "method" = some (.text result.statement.method)
  table : v.field "table" = some (.text result.statement.table)
  dialect : v.field "dialect" = some (.text result.dialect)
  metadata : v.field "metadata" = some result.statement.metadata.toRecord
  debug : v.field "debug" = some result.statement.trace.toRecord
  warnings : v.field "warnings" = some (.list (result.warnings.map .text))
  isValid : v.field "sql_valid" = some (.bool result.isValid)

/-- The reply is a failure with an envelope. -/
def Reply.IsFailure (reply : Reply) (code message : String) (details : Value) : Prop :=
  reply.status = 400 ∧ reply.content = .json (.record [("success", .bool false), ("data", .null),
    ("error", .record [("code", .text code), ("message", .text message), ("details", details)])])

/-- The registered names as details of a failure. -/
def availableDetails (registry : Registry) : Value :=
  .record [("available", .list (registry.available.map .text))]

/-- The reply tells what the run came to. -/
def Answers (registry : Registry) (reply : Reply) : Except Pipeline.Error Pipeline.Result → Prop
  | .error (.invalid _) => reply.status = 422
  | .error (.lookup e) =>
    reply.IsFailure "UNSUPPORTED_DIALECT" e.message (availableDetails registry)
  | .error (.compile e) =>
    ∃ refusal, e = .refused refusal ∧ reply.IsFailure refusal.code refusal.message .null
  | .ok result => reply.status = 200 ∧ ∃ body, reply.content = .json body ∧ Tells body result

end Http

/-- The scalar is told as its plain value. -/
def Scalar.IsFinite (s : Scalar) : Prop := s.toValue.finiteOrNull = s.toValue

theorem Scalar.isFinite_ofValue {v : Value} (hv : v.IsJson) (h : v.hasNonFinite = false) :
    (Scalar.ofValue v).IsFinite := by
  cases hv with
  | float x =>
    have hx : x.isFinite = true := by simpa [Value.hasNonFinite] using h
    exact if_pos hx
  | null | bool | int | text | list | record => rfl

/-- All parameters are told as their plain values. -/
structure Descriptor.HasFiniteParams (r : Descriptor) : Prop where
  path : ∀ e ∈ r.pathParams.entries, e.2.IsFinite
  query : ∀ e ∈ r.queryParams.entries, e.2.IsFinite

theorem Request.isFinite_scalarParams {path : List PathStep} {v : Value} {name : String}
    {fs : Fields Value} (hv : v.IsJson) (hfinite : v.hasNonFinite = false)
    (h : Reading.fields path (v.field name) = .ok fs) :
    ∀ e ∈ (scalarParams fs).entries, e.2.IsFinite := by
  intro e he
  obtain ⟨e', he', rfl⟩ := List.mem_map.mp he
  rcases Reading.fields_json (fun w hw => Value.isJson_field hv hw) h with ⟨-, rfl⟩ | hfield
  · cases he'
  · have hentry : e'.2.IsPart (.record fs.entries) :=
      .entry (List.mem_map.mpr ⟨e', he', rfl⟩) (.self e'.2)
    have hpart := hentry.trans (Value.isPart_of_field hfield)
    obtain ⟨hjson, hnumbers⟩ := Value.finite_of_isPart hpart hv hfinite
    exact Scalar.isFinite_ofValue hjson hnumbers

theorem Request.hasFiniteParams {v : Value} {q : Request} (hv : v.IsJson)
    (hfinite : v.hasNonFinite = false) (hq : q.IsReadFrom v) :
    (Descriptor.ofRequest q).HasFiniteParams where
  path := isFinite_scalarParams hv hfinite hq.params
  query := isFinite_scalarParams hv hfinite hq.query

namespace Http

theorem paramMap_plainParams {params : Fields Scalar} (h : ∀ e ∈ params.entries, e.2.IsFinite) :
    paramMap (plainParams params) = .record (plainParams params).entries := by
  refine congrArg Value.map (List.map_congr_left fun e he => ?_)
  obtain ⟨e', he', rfl⟩ := List.mem_map.mp he
  exact congrArg (Prod.mk (Value.text e'.1)) (h e' he')

variable {d : Dialect} {r : Descriptor} {s : Statement} {table : String} {m : Method}

theorem metadataMap_of_built (hfinite : r.HasFiniteParams)
    (h : Statement.built d r table m = .ok s) : metadataMap s.metadata = s.metadata.toRecord := by
  have hpath := paramMap_plainParams hfinite.path
  cases m with
  | get =>
    obtain ⟨ordering, -, rfl⟩ := Statement.select_eq_ok h
    have hread := paramMap_plainParams (Statement.forall_readParams hfinite.path hfinite.query)
    simp only [Statement.selected, metadataMap, hread]
    rfl
  | post =>
    obtain rfl := Except.ok.inj h
    rfl
  | put | patch =>
    obtain rfl := Except.ok.inj h
    simp only [Statement.updated, metadataMap, hpath]
    rfl
  | delete =>
    obtain rfl := Except.ok.inj h
    simp only [Statement.deleted, metadataMap, hpath]
    rfl

theorem trace_of_built (h : Statement.built d r table m = .ok s) :
    s.trace = Statement.traceOf r := by
  cases m with
  | get =>
    obtain ⟨ordering, -, rfl⟩ := Statement.select_eq_ok h
    rfl
  | post | put | patch | delete =>
    obtain rfl := Except.ok.inj h
    rfl

theorem traceMap_of_built (hfinite : r.HasFiniteParams)
    (h : Statement.built d r table m = .ok s) : traceMap s.trace = s.trace.toRecord := by
  rw [trace_of_built h]
  simp only [Statement.traceOf, traceMap, paramMap_plainParams hfinite.path,
    paramMap_plainParams hfinite.query]
  rfl

/-- A result whose statement was compiled from finite parameters is told as it is. -/
theorem tells_resultMap {result : Pipeline.Result} (hfinite : r.HasFiniteParams)
    (h : Statement.compile d r = .ok result.statement) :
    Tells (resultMap none result) result := by
  obtain ⟨table, m, -, -, -, -, -, hbuilt⟩ := Statement.compile_eq_ok h
  have hmetadata := metadataMap_of_built hfinite hbuilt
  have htrace := traceMap_of_built hfinite hbuilt
  refine ⟨rfl, rfl, rfl, rfl, rfl, ?_, ?_, rfl, rfl⟩
  · rw [← hmetadata]
    rfl
  · rw [← htrace]
    rfl

theorem encodedReply_of_finite {status : Nat} {v : Value} (h : v.hasNonFinite = false) :
    encodedReply none status v = .ok { status, content := .json v } := by
  rw [encodedReply, h]
  rfl

theorem hasNonFinite_texts (ts : List String) :
    (Value.list (ts.map .text)).hasNonFinite = false := by
  refine Value.anyNonFinite_eq_false_iff.mpr fun v hv => ?_
  obtain ⟨t, -, rfl⟩ := List.mem_map.mp hv
  rfl

theorem hasNonFinite_details (registry : Registry) :
    (availableDetails registry).hasNonFinite = false := by
  refine Value.anyNonFiniteEntry_eq_false_iff.mpr ?_
  simp only [List.map_cons, List.map_nil, List.forall_mem_cons]
  exact ⟨hasNonFinite_texts _, nofun⟩

theorem hasNonFinite_faultMap {f : Fault} (h : f.input.hasNonFinite = false) :
    (faultMap f).hasNonFinite = false := by
  have hpath : (Value.list (f.path.map stepValue)).hasNonFinite = false := by
    refine Value.anyNonFinite_eq_false_iff.mpr fun v hv => ?_
    obtain ⟨step, -, rfl⟩ := List.mem_map.mp hv
    cases step with
    | name | index => rfl
  refine Value.anyNonFiniteEntry_eq_false_iff.mpr ?_
  simp only [List.forall_mem_cons]
  exact ⟨rfl, hpath, rfl, Value.hasNonFinite_withoutInternal h, nofun⟩

theorem faultsReply_of_finite {faults : List Fault}
    (h : ∀ f ∈ faults, f.input.hasNonFinite = false) :
    ∃ content, faultsReply none faults = .ok { status := 422, content } := by
  have hlist : (Value.list (faults.map faultMap)).hasNonFinite = false := by
    refine Value.anyNonFinite_eq_false_iff.mpr fun v hv => ?_
    obtain ⟨f, hf, rfl⟩ := List.mem_map.mp hv
    exact hasNonFinite_faultMap (h f hf)
  refine ⟨_, encodedReply_of_finite ?_⟩
  refine Value.anyNonFiniteEntry_eq_false_iff.mpr ?_
  simp only [List.forall_mem_cons]
  exact ⟨hlist, nofun⟩

theorem envelopeReply_of_finite {code message : String} {details : Value}
    (h : details.hasNonFinite = false) :
    ∃ reply, envelopeReply none (.ofError { code, message, details }) = .ok reply ∧
      reply.IsFailure code message details := by
  refine ⟨_, encodedReply_of_finite ?_, rfl, rfl⟩
  have hbody : (ErrorBody.toValue { code, message, details }).hasNonFinite = false := by
    refine Value.anyNonFiniteEntry_eq_false_iff.mpr ?_
    simp only [List.forall_mem_cons]
    exact ⟨rfl, rfl, h, nofun⟩
  refine Value.anyNonFiniteEntry_eq_false_iff.mpr ?_
  simp only [List.forall_mem_cons]
  exact ⟨rfl, rfl, hbody, nofun⟩

section Calls

variable {s : Service} {r : Request} {v : Value} {dialect : Option String} {engine : Engine}

theorem answers_of_compileDescriptor {q : RequestSql.Request} (hv : v.IsJson)
    (hfinite : v.hasNonFinite = false) (hq : q.IsReadFrom v) (tools : Tools) (registry : Registry)
    (engine : Engine) (options : Options) (hpretty : options.pretty = false) :
    ∃ reply, compileReply tools none registry engine options q = .ok reply ∧
      Answers registry reply (Pipeline.compileDescriptor registry engine.validate (.ofRequest q)
        (.text (options.dialect.getD engine.dialect)) tools.parse) := by
  cases hrun : Pipeline.compileDescriptor registry engine.validate (.ofRequest q)
      (.text (options.dialect.getD engine.dialect)) tools.parse with
  | ok result =>
    obtain ⟨d, -, hs, -, -⟩ := Pipeline.compileDescriptor_eq_ok hrun
    have htells := tells_resultMap (Request.hasFiniteParams hv hfinite hq) hs
    simp only [compileReply, hrun, resultReply, laidOut, hpretty, Bool.false_eq_true, if_false]
    exact ⟨_, rfl, rfl, _, rfl, htells⟩
  | error e =>
    rcases Pipeline.compileDescriptor_eq_error hrun with ⟨l, -, rfl⟩ | ⟨d, c, -, hc, rfl⟩
    · simp only [compileReply, hrun]
      exact envelopeReply_of_finite (hasNonFinite_details registry)
    · obtain ⟨refusal, rfl⟩ := Pipeline.refused_of_compile hv hq hc
      have hdetails : Value.null.hasNonFinite = false := rfl
      obtain ⟨reply, hreply, hfailure⟩ := envelopeReply_of_finite hdetails
      simp only [compileReply, hrun]
      exact ⟨reply, hreply, refusal, rfl, hfailure⟩

/-- The reply to a call tells what the run of the pipeline came to. -/
theorem answers_of_call (h : IsCompileCall r v dialect) (hengine : s.engine = some engine) :
    ∃ reply, serve s r = .ok reply ∧
      Answers s.registry reply (Pipeline.compile s.registry engine.validate v
        (.text ((RequestSql.Request.nonempty dialect).getD engine.dialect)) s.tools.parse) := by
  obtain ⟨hv, hshort⟩ := Body.isShortJson_of_readJson h.body
  rw [h.serve hengine]
  cases hread : RequestSql.Request.read v with
  | faulty faults =>
    have hinputs : ∀ f ∈ faults.map inBody, f.input.hasNonFinite = false := by
      intro f hf
      obtain ⟨f', hf', rfl⟩ := List.mem_map.mp hf
      obtain ⟨-, hpart⟩ := (RequestSql.Request.blames_read v faults hread).2 f' hf'
      exact (Value.finite_of_isPart hpart hv h.finite).2
    obtain ⟨content, hreply⟩ := faultsReply_of_finite hinputs
    rw [Pipeline.compile_of_faulty (Descriptor.read_of_faulty hread)]
    exact ⟨_, hreply, rfl⟩
  | ok q =>
    have hq := RequestSql.Request.isReadFrom_of_read hread
    rw [Pipeline.compile_of_read (Descriptor.read_of_short hv hshort hread)]
    exact answers_of_compileDescriptor hv h.finite hq s.tools s.registry engine _ rfl

end Calls

section Kinds

variable {registry : Registry} {reply : Reply} {run : Except Pipeline.Error Pipeline.Result}

theorem details_of_isFailure {code code' message message' : String} {details details' : Value}
    (h : reply.IsFailure code message details) (h' : reply.IsFailure code' message' details') :
    details = details' := by
  have hcontent := h.2.symm.trans h'.2
  simp only [Value.record, Content.json.injEq, Value.map.injEq, List.map_cons, List.cons.injEq,
    Prod.mk.injEq, true_and] at hcontent
  exact hcontent.1.2.2.1

theorem status_of_answers (h : Answers registry reply run) :
    reply.status = match run with
      | .ok _ => 200
      | .error (.invalid _) => 422
      | .error (.lookup _) | .error (.compile _) => 400 := by
  cases run with
  | ok result => exact h.1
  | error e =>
    cases e with
    | invalid faults => exact h
    | lookup e => exact h.1
    | compile e =>
      obtain ⟨refusal, -, hfailure⟩ := h
      exact hfailure.1

theorem status_eq_422_iff (h : Answers registry reply run) :
    reply.status = 422 ↔ ∃ faults, run = .error (.invalid faults) := by
  rw [status_of_answers h]
  split <;> simp

theorem status_eq_200_iff (h : Answers registry reply run) :
    reply.status = 200 ↔ ∃ result, run = .ok result := by
  rw [status_of_answers h]
  split <;> simp

/-- The details tell which of the two failures it is. -/
theorem run_of_isFailure (h : Answers registry reply run) {code message : String} {details : Value}
    (hfailure : reply.IsFailure code message details) :
    (∃ e, run = .error (.lookup e)) ∧ details = availableDetails registry ∨
      (∃ e, run = .error (.compile e)) ∧ details = .null := by
  have hstatus := hfailure.1.symm.trans (status_of_answers h)
  cases run with
  | ok result => cases hstatus
  | error e =>
    cases e with
    | invalid faults => cases hstatus
    | lookup e => exact .inl ⟨⟨e, rfl⟩, details_of_isFailure hfailure h⟩
    | compile e =>
      obtain ⟨refusal, -, hrefused⟩ := h
      exact .inr ⟨⟨e, rfl⟩, details_of_isFailure hfailure hrefused⟩

theorem isFailure_available_iff (h : Answers registry reply run) :
    (∃ message, reply.IsFailure "UNSUPPORTED_DIALECT" message (availableDetails registry)) ↔
      ∃ e, run = .error (.lookup e) := by
  constructor
  · rintro ⟨message, hfailure⟩
    rcases run_of_isFailure h hfailure with ⟨hlookup, -⟩ | ⟨-, hnull⟩
    · exact hlookup
    · cases hnull
  · rintro ⟨e, rfl⟩
    exact ⟨e.message, h⟩

theorem isFailure_null_iff (h : Answers registry reply run) :
    (∃ code message, reply.IsFailure code message .null) ↔ ∃ e, run = .error (.compile e) := by
  constructor
  · rintro ⟨code, message, hfailure⟩
    rcases run_of_isFailure h hfailure with ⟨-, havailable⟩ | ⟨hcompile, -⟩
    · cases havailable
    · exact hcompile
  · rintro ⟨e, rfl⟩
    obtain ⟨refusal, -, hfailure⟩ := h
    exact ⟨_, _, hfailure⟩

end Kinds

/-- The dialect that a call is compiled for: the one it names, unless the name is empty. -/
def targetOf (engine : Engine) : Option String → String
  | none | some "" => engine.dialect
  | some d => d

theorem targetOf_eq (engine : Engine) (dialect : Option String) :
    targetOf engine dialect = (RequestSql.Request.nonempty dialect).getD engine.dialect := by
  cases dialect with
  | none => rfl
  | some d =>
    by_cases hd : d = ""
    · rw [hd]
      rfl
    · have htarget : targetOf engine (some d) = d := by simp [targetOf]
      rw [htarget, RequestSql.Request.nonempty_of_ne hd]
      rfl

/-- The endpoint replies to every call, and it replies what the pipeline comes to under the engine
in force, whatever is registered: the kind of the reply is the kind of the outcome. -/
theorem serve_of_call {s : Service} {r : Request} {v : Value} {dialect : Option String}
    {engine : Engine} (h : IsCompileCall r v dialect) (hengine : s.engine = some engine) :
    ∃ reply run, run = Pipeline.compile s.registry engine.validate v
        (.text (targetOf engine dialect)) s.tools.parse ∧
      serve s r = .ok reply ∧ Answers s.registry reply run ∧
      (reply.status = 422 ↔ ∃ faults, RequestSql.Request.read v = .faulty faults) ∧
      ((∃ message, reply.IsFailure "UNSUPPORTED_DIALECT" message (availableDetails s.registry)) ↔
        (∃ q, RequestSql.Request.read v = .ok q) ∧
          targetOf engine dialect ∉ s.registry.available) ∧
      ((∃ code message, reply.IsFailure code message .null) ↔ ∃ e, run = .error (.compile e)) ∧
      (reply.status = 200 ↔ ∃ result, run = .ok result) ∧
      s.registry.available.Pairwise (· < ·) := by
  obtain ⟨hv, hshort⟩ := Body.isShortJson_of_readJson h.body
  obtain ⟨reply, hreply, hanswers⟩ := answers_of_call h hengine
  rw [← targetOf_eq] at hanswers
  refine ⟨reply, _, rfl, hreply, hanswers, ?_, ?_, isFailure_null_iff hanswers,
    status_eq_200_iff hanswers, s.registry.sorted_available⟩
  · rw [status_eq_422_iff hanswers, Pipeline.compile_eq_invalid_iff hv hshort]
  · rw [isFailure_available_iff hanswers, Pipeline.compile_eq_lookup_iff hv hshort]

/-- A body in two chunks of a declared length, a media type with a parameter, and an empty name of a
dialect. -/
def chunkedCall : Request where
  method := "POST"
  path := "/compile"
  query := "dialect="
  headers := [("Content-Type", "application/json; charset=utf-8"), ("content-length", "25")]
  chunks := ["\x7b\"table\":\"t\",".toUTF8, "\"select\":[]\x7d".toUTF8]

theorem readJson_chunkedCall : Body.readJson chunkedCall.bytes =
    .ok { value := .record [("table", .text "t"), ("select", .list [])] } := by
  let v : Value := .record [("table", .text "t"), ("select", .list [])]
  let cs : List Char := ['\x7b', '"', 't', 'a', 'b', 'l', 'e', '"', ':', '"', 't', '"', ',',
    '"', 's', 'e', 'l', 'e', 'c', 't', '"', ':', '[', ']', '\x7d']
  have hnumbers : Json.numbersOf? chunkedCall.bytes = some (cs.map Char.toNat) := by decide +kernel
  have hpairs : Json.escapedPairs ((cs.map Char.toNat).map Char.ofNat) = [] := by decide +kernel
  have hblock : Text.HalfBlock.unusedIn (cs.map Char.toNat ++ []) = ⟨27⟩ := by decide +kernel
  have hchars : (cs.map Char.toNat).map (Text.HalfBlock.char ⟨27⟩) = cs := by decide +kernel
  have hread : Json.read ⟨27⟩ cs = .ok v := rfl
  have hwhole : (v.halves? ⟨27⟩).isSome = false := by decide +kernel
  rw [Body.readJson, hnumbers]
  simp only [hpairs, hblock, hchars, hread, Body.Parsed.of, hwhole]
  rfl

theorem isCompileCall_chunkedCall :
    IsCompileCall chunkedCall (.record [("table", .text "t"), ("select", .list [])]) (some "") := by
  have htype : chunkedCall.header? "content-type" = some "application/json; charset=utf-8" := by
    decide +kernel
  have hlength : chunkedCall.header? "content-length" = some "25" := by decide +kernel
  have hsize : BodyLimit.totalSize chunkedCall.chunks = 25 := by decide +kernel
  have hdeclared : BodyLimit.declaredLength "25" = .ok (some 25) := rfl
  refine ⟨rfl, rfl, ⟨_, htype, by decide⟩, ?_, ?_, readJson_chunkedCall, rfl, by decide +kernel⟩
  · intro header hheader
    obtain rfl := Option.some.inj (hlength.symm.trans hheader)
    rw [hsize, hdeclared]
  · rw [hsize]
    decide

theorem serve_of_chunkedCall :
    ∃ s v reply, s = { engine := some { validate := true, dialect := "sqlite" } } ∧
      IsCompileCall chunkedCall v (some "") ∧ serve s chunkedCall = .ok reply ∧
      reply.status = 200 ∧
      Answers .builtin reply (Pipeline.compile .builtin true v (.text "sqlite") s.tools.parse) := by
  let s : Service := { engine := some { validate := true, dialect := "sqlite" } }
  have hengine : s.engine = some { validate := true, dialect := "sqlite" } := rfl
  have hcall := isCompileCall_chunkedCall
  obtain ⟨reply, run, hrun, hreply, hanswers, -, -, -, htold, -⟩ := serve_of_call hcall hengine
  obtain ⟨result, hresult⟩ : ∃ result, Pipeline.compile .builtin true
      (.record [("table", .text "t"), ("select", .list [])]) (.text "sqlite") s.tools.parse =
        .ok result :=
    ⟨_, rfl⟩
  have hok : run = .ok result := hrun.trans hresult
  refine ⟨s, _, reply, rfl, hcall, hreply, htold.mpr ⟨result, hok⟩, ?_⟩
  rw [hresult, ← hok]
  exact hanswers

end Http

end RequestSql
