import RequestSql.Pipeline
import RequestSql.Proofs.Registry
import RequestSql.Proofs.Request.Writable
import RequestSql.Proofs.Statement.Form

/-!
# Outcomes of the pipeline

Every value of JSON without long integers has one of seven outcomes under every registry and every
name of a dialect. The first check that fails decides, and each check looks at the fields of the
value itself. The other failures that the pipeline knows do not come up: a text is always a key, and
a request that was read never asks for an ordering that is none.
-/

namespace RequestSql

def Method.operation (soft : Bool) : Method → Operation
  | .get => .select
  | .post => .insert
  | .put | .patch => .update
  | .delete => if soft then .update else .delete

namespace Pipeline

/-- What becomes of a value. -/
inductive Outcome where
  | invalid (faults : List Fault)
  | unsupportedDialect (name : String) (available : List String)
  | missingTable
  | unsupportedMethod (method : String)
  | emptyBody (method : String)
  | missingIdentifier (method : String)
  | statement (operation : Operation)

def Outcome.ofFailure : CompileError → Option Outcome
  | .refused .missingTable => some .missingTable
  | .refused (.unsupportedMethod m) => some (.unsupportedMethod m)
  | .refused (.emptyBody m) => some (.emptyBody m)
  | .refused (.missingIdentifier m) => some (.missingIdentifier m)
  | .refused (.other _) | .unknownOrdering _ => none

/-- The outcome of a run, if it is one of those. -/
def Outcome.ofRun : Except Error Result → Option Outcome
  | .ok result => some (.statement result.statement.operation)
  | .error (.invalid faults) => some (.invalid faults)
  | .error (.lookup (.unsupported (.text name) available)) =>
    some (.unsupportedDialect name available)
  | .error (.lookup _) => none
  | .error (.compile e) => ofFailure e

/-- The method that a value asks for, in upper case. -/
def methodWord (v : Value) : String := Text.upper ((Request.textField "method" v).getD "GET")

/-- Only false switches soft deletion off; the first name of the field goes before the second. -/
def isSoft (v : Value) : Bool :=
  match (v.field "softDelete").or (v.field "soft_delete") with
  | some (.bool false) => false
  | _ => true

/-- The outcome of a well-formed value under a registered dialect. -/
def verdict (v : Value) : Outcome :=
  if Request.namesTable v = false then .missingTable
  else match Method.ofText? (methodWord v) with
    | none => .unsupportedMethod (methodWord v)
    | some m =>
      if m.takesBody && !v.hasFields "body" then .emptyBody (methodWord v)
      else if m.isBounded && !v.hasFields "params" then .missingIdentifier (methodWord v)
      else .statement (m.operation (isSoft v))

/-- The outcome that the first failing check decides. -/
def classify (registry : Registry) (v : Value) (dialect : String) : Outcome :=
  match Request.read v with
  | .faulty faults => .invalid faults
  | .ok _ =>
    if dialect ∈ registry.available then verdict v
    else .unsupportedDialect dialect registry.available

variable {d : Dialect} {q : Request} {v : Value}

theorem ordering_ofRequest (d : Dialect) (q : Request) :
    ∃ ordering, Clause.ordering d (Descriptor.ofRequest q).orderBy = .ok ordering := by
  change ∃ ordering, Clause.ordering d (q.orderBy.map .ofRequest) = .ok ordering
  cases q.orderBy with
  | none => exact ⟨_, rfl⟩
  | some o =>
    cases o with
    | text e => exact ⟨_, rfl⟩
    | list es => exact ⟨_, rfl⟩
    | column name direction => exact ⟨_, rfl⟩

theorem built_ofRequest (d : Dialect) (q : Request) (table : String) (m : Method) :
    ∃ s, Statement.built d (.ofRequest q) table m = .ok s ∧
      s.operation = m.operation q.softDelete := by
  cases m with
  | get =>
    obtain ⟨ordering, ho⟩ := ordering_ofRequest d q
    exact ⟨_, Statement.select_eq ho, rfl⟩
  | post | put | patch | delete => exact ⟨_, rfl, rfl⟩

theorem softDelete_eq (hq : q.IsReadFrom v) : q.softDelete = isSoft v := by
  rw [hq.softDelete]
  rfl

theorem method_ofRequest (hv : v.IsJson) (hq : q.IsReadFrom v) :
    (Descriptor.ofRequest q).method = methodWord v := by
  rw [methodWord, ← Request.nonempty_optionalText hv hq.method]
  rfl

theorem find_text (registry : Registry) (name : String) :
    (name ∉ registry.available ∧
        registry.find (.text name) = .error (.unsupported (.text name) registry.available)) ∨
      (name ∈ registry.available ∧ ∃ d, registry.find (.text name) = .ok d) := by
  cases hd : registry.get? name with
  | none =>
    refine .inl ⟨fun hmem => ?_, Registry.find_of_none hd⟩
    obtain ⟨d, h⟩ := Registry.mem_available_iff.mp hmem
    rw [hd] at h
    cases h
  | some d => exact .inr ⟨Registry.mem_available_iff.mpr ⟨d, hd⟩, d, Registry.find_of_get? hd⟩

section Runs

variable {registry : Registry} {validate : Bool} {parse : Parser} {r : Descriptor} {name : Value}
  {result : Result}

/-- What a result says: a dialect was found, the statement compiled, and the text checked if the
pipeline checks. -/
theorem compileDescriptor_eq_ok
    (h : compileDescriptor registry validate r name parse = .ok result) :
    ∃ d, registry.find name = .ok d ∧ Statement.compile d r = .ok result.statement ∧
      result.dialect = d.name ∧
      result.findings = if validate then check parse result.statement.sql d.name else [] := by
  unfold compileDescriptor at h
  split at h
  · cases h
  · rename_i d hfind
    split at h
    · cases h
    · rename_i s hs
      obtain rfl := Except.ok.inj h
      exact ⟨d, hfind, hs, rfl, rfl⟩

theorem compileDescriptor_eq_error {e : Error}
    (h : compileDescriptor registry validate r name parse = .error e) :
    (∃ l, registry.find name = .error l ∧ e = .lookup l) ∨
      ∃ d c, registry.find name = .ok d ∧ Statement.compile d r = .error c ∧ e = .compile c := by
  unfold compileDescriptor at h
  split at h
  · rename_i l hfind
    exact .inl ⟨l, hfind, (Except.error.inj h).symm⟩
  · rename_i d hfind
    split at h
    · rename_i c hc
      exact .inr ⟨d, c, hfind, hc, (Except.error.inj h).symm⟩
    · cases h

theorem compile_of_read {v : Value} (h : Descriptor.read v = .ok r) :
    compile registry validate v name parse = compileDescriptor registry validate r name parse := by
  rw [compile, h]

theorem compile_of_faulty {v : Value} {faults : List Fault}
    (h : Descriptor.read v = .faulty faults) :
    compile registry validate v name parse = .error (.invalid faults) := by
  rw [compile, h]

section Short

variable {v : Value} (hv : v.IsJson) (hshort : v.hasLongInteger = false)

include hv hshort

theorem compile_eq_invalid_iff :
    (∃ faults, compile registry validate v name parse = .error (.invalid faults)) ↔
      ∃ faults, Request.read v = .faulty faults := by
  cases hread : Request.read v with
  | faulty faults =>
    rw [compile_of_faulty (Descriptor.read_of_faulty hread)]
    exact iff_of_true ⟨faults, rfl⟩ ⟨faults, rfl⟩
  | ok q =>
    rw [compile_of_read (Descriptor.read_of_short hv hshort hread)]
    refine iff_of_false ?_ nofun
    rintro ⟨faults, h⟩
    rcases compileDescriptor_eq_error h with ⟨l, -, hl⟩ | ⟨d, c, -, -, hc⟩
    · cases hl
    · cases hc

theorem compile_eq_lookup_iff {dialect : String} :
    (∃ e, compile registry validate v (.text dialect) parse = .error (.lookup e)) ↔
      (∃ q, Request.read v = .ok q) ∧ dialect ∉ registry.available := by
  cases hread : Request.read v with
  | faulty faults =>
    rw [compile_of_faulty (Descriptor.read_of_faulty hread)]
    exact iff_of_false nofun nofun
  | ok q =>
    rw [compile_of_read (Descriptor.read_of_short hv hshort hread)]
    rcases find_text registry dialect with ⟨hmem, hfind⟩ | ⟨hmem, d, hfind⟩
    · simp only [compileDescriptor, hfind]
      exact iff_of_true ⟨_, rfl⟩ ⟨⟨q, rfl⟩, hmem⟩
    · refine iff_of_false ?_ fun h => h.2 hmem
      rintro ⟨e, h⟩
      rcases compileDescriptor_eq_error h with ⟨l, hl, -⟩ | ⟨d', c, -, -, hc⟩
      · rw [hfind] at hl
        cases hl
      · cases hc

end Short

end Runs

theorem compile_of_namesTable (hv : v.IsJson) (hq : q.IsReadFrom v) {m : Method}
    (hnames : Request.namesTable v = true) (hof : Method.ofText? (methodWord v) = some m) :
    ∃ table, Statement.compile d (.ofRequest q) =
      if m.takesBody && !v.hasFields "body" then .error (.refused (.emptyBody (methodWord v)))
      else if m.isBounded && !v.hasFields "params" then
        .error (.refused (.missingIdentifier (methodWord v)))
      else Statement.built d (.ofRequest q) table m := by
  have htable := Request.resolvedTable_json hv hq
  rw [hnames, if_pos rfl] at htable
  obtain ⟨table, ht, hne⟩ := htable
  have hmethod := method_ofRequest hv hq
  have hm : (Descriptor.ofRequest q).method = m.text := by
    rw [hmethod]
    exact Method.ofText?_eq_some_iff.mp hof
  have hbody : (Descriptor.ofRequest q).body.isEmpty = !v.hasFields "body" :=
    (Fields.isEmpty_map _ _).trans (Request.isEmpty_fields hv hq.body)
  have hparams : (Descriptor.ofRequest q).pathParams.isEmpty = !v.hasFields "params" :=
    (Fields.isEmpty_map _ _).trans (Request.isEmpty_fields hv hq.params)
  refine ⟨table, ?_⟩
  rw [Statement.compile_of_method ht hne hm, hbody, hparams, hmethod]

/-- What compiling a request comes to is decided by the fields of the value it was read from. -/
theorem verdict_of_compile (hv : v.IsJson) (hq : q.IsReadFrom v) (d : Dialect) :
    (∃ e, Statement.compile d (.ofRequest q) = .error e ∧
        Outcome.ofFailure e = some (verdict v)) ∨
      ∃ s, Statement.compile d (.ofRequest q) = .ok s ∧ verdict v = .statement s.operation := by
  have htable := Request.resolvedTable_json hv hq
  unfold verdict
  cases hnames : Request.namesTable v with
  | false =>
    rw [hnames, if_neg Bool.false_ne_true] at htable
    have hnone : (Descriptor.ofRequest q).table = none := htable
    exact .inl ⟨_, Statement.compile_of_no_table (by rw [hnone]; nofun), rfl⟩
  | true =>
    cases hof : Method.ofText? (methodWord v) with
    | none =>
      rw [hnames, if_pos rfl] at htable
      obtain ⟨table, ht, hne⟩ := htable
      have hmethod := method_ofRequest hv hq
      have hcompile := Statement.compile_of_unsupported (d := d) (r := .ofRequest q) ht hne
        (by rw [hmethod]; exact hof)
      rw [hmethod] at hcompile
      exact .inl ⟨_, hcompile, rfl⟩
    | some m =>
      obtain ⟨table, hcompile⟩ := compile_of_namesTable (d := d) hv hq hnames hof
      rw [hcompile]
      dsimp only
      by_cases htakes : (m.takesBody && !v.hasFields "body") = true
      · rw [if_pos htakes, if_pos htakes]
        exact .inl ⟨_, rfl, rfl⟩
      by_cases hbounded : (m.isBounded && !v.hasFields "params") = true
      · rw [if_neg htakes, if_neg htakes, if_pos hbounded, if_pos hbounded]
        exact .inl ⟨_, rfl, rfl⟩
      · obtain ⟨s, hs, hop⟩ := built_ofRequest d q table m
        rw [if_neg htakes, if_neg htakes, if_neg hbounded, if_neg hbounded, ← softDelete_eq hq,
          ← hop]
        exact .inr ⟨s, hs, rfl⟩

/-- A request is only ever refused: the ordering that it asks for is always one. -/
theorem refused_of_compile (hv : v.IsJson) (hq : q.IsReadFrom v) {c : CompileError}
    (h : Statement.compile d (.ofRequest q) = .error c) : ∃ refusal, c = .refused refusal := by
  rcases verdict_of_compile hv hq d with ⟨e, he, houtcome⟩ | ⟨s, hs, -⟩
  · obtain rfl : c = e := Except.error.inj (h.symm.trans he)
    cases c with
    | refused refusal => exact ⟨refusal, rfl⟩
    | unknownOrdering w => cases houtcome
  · rw [h] at hs
    cases hs

/-- Every value of JSON without long integers has the outcome that its first failing check decides,
whatever is registered, whatever the parser says and whether or not statements are checked. The
registered names are given in their order. -/
theorem outcome_of_json (registry : Registry) (validate : Bool) (parse : Parser) (hv : v.IsJson)
    (hshort : v.hasLongInteger = false) (dialect : String) :
    Outcome.ofRun (compile registry validate v (.text dialect) parse) =
        some (classify registry v dialect) ∧
      registry.available.Pairwise (· < ·) := by
  refine ⟨?_, registry.sorted_available⟩
  unfold classify
  cases hread : Request.read v with
  | faulty faults =>
    rw [compile_of_faulty (Descriptor.read_of_faulty hread)]
    rfl
  | ok q =>
    have hq := Request.isReadFrom_of_read hread
    rw [compile_of_read (Descriptor.read_of_short hv hshort hread)]
    rcases find_text registry dialect with ⟨hmem, hfind⟩ | ⟨hmem, d, hfind⟩
    · simp only [compileDescriptor, hfind, if_neg hmem]
      rfl
    · simp only [compileDescriptor, hfind, if_pos hmem]
      rcases verdict_of_compile hv hq d with ⟨e, he, hverdict⟩ | ⟨s, hs, hverdict⟩
      · rw [he]
        exact hverdict
      · rw [hs, hverdict]
        rfl

/-- A change in lower case whose table is the display of a list. -/
theorem outcome_of_routed_change :
    ∃ v, v = .record [("method", .text "patch"), ("params", .record [("table", .list [.int 7])]),
        ("body", .record [("a", .null)]), ("soft_delete", .bool false)] ∧ v.IsJson ∧
      v.hasLongInteger = false ∧ ∀ parse, Outcome.ofRun
        (compile .builtin true v (.text "mysql") parse) = some (.statement .update) := by
  let v : Value := .record [("method", .text "patch"),
    ("params", .record [("table", .list [.int 7])]), ("body", .record [("a", .null)]),
    ("soft_delete", .bool false)]
  have hparams : (Value.record [("table", .list [.int 7])]).IsJson :=
    .record (by decide) (by simpa using .list (by simpa using .int 7))
  have hbody : (Value.record [("a", .null)]).IsJson := .record (by decide) (by simpa using .null)
  have hv : v.IsJson :=
    .record (by decide) (by simpa using ⟨.text "patch", hparams, hbody, .bool false⟩)
  have hword : methodWord v = "PATCH" := by decide +kernel
  have hverdict : verdict v = .statement .update := by
    rw [verdict, hword]
    rfl
  have hclassify : classify .builtin v "mysql" = .statement .update := by
    obtain ⟨q, hq⟩ : ∃ q, Request.read v = .ok q := ⟨_, rfl⟩
    rw [classify, hq, ← hverdict]
    exact if_pos (Registry.mem_available_iff.mpr ⟨.mysql, rfl⟩)
  have hshort : v.hasLongInteger = false := by decide
  refine ⟨v, rfl, hv, hshort, fun parse => ?_⟩
  rw [← hclassify]
  exact (outcome_of_json .builtin true parse hv hshort "mysql").1

end Pipeline

end RequestSql
