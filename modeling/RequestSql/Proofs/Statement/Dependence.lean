import RequestSql.Proofs.Statement.Metadata

/-!
# What an outcome depends on

Whether a descriptor compiles, and what is told of its statement, does not depend on the dialect: the
checks look at the descriptor alone, and a clause is empty under all dialects or under none. The
dialect gives the text, and gives it through its quotes and its spelling of truth values. The keys of
the request only come back in the trace.
-/

namespace RequestSql.Statement

variable {d e : Dialect} {r : Descriptor} {table : String}

/-- Both runs fail for one reason, or both give a statement and the two are related. -/
inductive Agree (related : Statement → Statement → Prop) :
    Except CompileError Statement → Except CompileError Statement → Prop
  | failed (e : CompileError) : Agree related (.error e) (.error e)
  | compiled {s t : Statement} (h : related s t) : Agree related (.ok s) (.ok t)

/-- The statements differ in their text at most. -/
structure SameButText (s t : Statement) : Prop where
  operation : s.operation = t.operation
  method : s.method = t.method
  table : s.table = t.table
  metadata : s.metadata = t.metadata
  trace : s.trace = t.trace

/-- An ordering is one under every dialect, or under none. -/
theorem ordering_of_dialects (d e : Dialect) (o : Option OrderBy) :
    (∃ v, Clause.ordering d o = .error v ∧ Clause.ordering e o = .error v) ∨
      ∃ a b, Clause.ordering d o = .ok a ∧ Clause.ordering e o = .ok b := by
  cases o with
  | none => exact .inr ⟨_, _, rfl, rfl⟩
  | some o =>
    cases o with
    | text | list | column => exact .inr ⟨_, _, rfl, rfl⟩
    | unknown v => exact .inl ⟨v, rfl, rfl⟩

/-- The metadata of a reading, told without its clauses. -/
theorem metadata_selected {ordering : String} (h : Clause.ordering d r.orderBy = .ok ordering) :
    (selected d r table ordering).metadata = .select (tableAlias table)
      (plainParams (readParams r)) (r.joins ≠ []) ((readParams r).entries ≠ [])
      r.orderBy.isSome := by
  have hjoins : (Clause.joins d r.joins ≠ "") ↔ r.joins ≠ [] :=
    not_congr Clause.joins_eq_empty_iff
  have hfilter : (Clause.filter d (some (tableAlias table)) (readParams r).entries ≠ "") ↔
      (readParams r).entries ≠ [] := not_congr Clause.filter_eq_empty_iff
  have hordering : decide (ordering ≠ "") = r.orderBy.isSome := by
    rw [Bool.eq_iff_iff, decide_eq_true_iff, Option.isSome_iff_ne_none]
    exact not_congr (Clause.ordering_eq_empty_iff h)
  simp only [selected, hjoins, hfilter, hordering]

theorem agree_built (d e : Dialect) (r : Descriptor) (table : String) (m : Method) :
    Agree SameButText (built d r table m) (built e r table m) := by
  cases m with
  | get =>
    rcases ordering_of_dialects d e r.orderBy with ⟨v, hd, he⟩ | ⟨a, b, hd, he⟩
    · simp only [built, select, hd, he]
      exact .failed _
    · rw [built, built, select_eq hd, select_eq he]
      refine .compiled ⟨rfl, rfl, rfl, ?_, rfl⟩
      rw [metadata_selected hd, metadata_selected he]
  | post | put | patch | delete =>
    exact .compiled ⟨rfl, rfl, rfl, rfl, rfl⟩

theorem compile_of_spelling (hquote : d.quote = e.quote) (hbool : d.boolText = e.boolText) :
    compile d r = compile e r := by
  have htrue : d.trueText = e.trueText := congrFun hbool true
  have hfalse : d.falseText = e.falseText := congrFun hbool false
  cases d
  cases e
  subst hquote htrue hfalse
  rfl

/-- The checks of table, method, body and path parameters look neither at the dialect nor at the keys
of the request. -/
theorem checks (r : Descriptor) :
    (∃ refusal, ∀ d keys, compile d { r with inputKeys := keys } = .error (.refused refusal)) ∨
      ∃ table m, ∀ d keys, compile d { r with inputKeys := keys } =
        built d { r with inputKeys := keys } table m := by
  by_cases ht : ∃ table, r.table = some table ∧ table ≠ ""
  · obtain ⟨table, ht, hne⟩ := ht
    cases hof : Method.ofText? r.method with
    | none =>
      refine .inl ⟨.unsupportedMethod r.method, fun d keys => ?_⟩
      exact compile_of_unsupported (r := { r with inputKeys := keys }) ht hne hof
    | some m =>
      have hm : r.method = m.text := Method.ofText?_eq_some_iff.mp hof
      have hcompile (d : Dialect) (keys : List String) :=
        compile_of_method (d := d) (r := { r with inputKeys := keys }) ht hne hm
      by_cases hbody : (m.takesBody && r.body.isEmpty) = true
      · refine .inl ⟨.emptyBody r.method, fun d keys => ?_⟩
        exact (hcompile d keys).trans (if_pos hbody)
      by_cases hparams : (m.isBounded && r.pathParams.isEmpty) = true
      · refine .inl ⟨.missingIdentifier r.method, fun d keys => ?_⟩
        exact ((hcompile d keys).trans (if_neg hbody)).trans (if_pos hparams)
      · refine .inr ⟨table, m, fun d keys => ?_⟩
        exact ((hcompile d keys).trans (if_neg hbody)).trans (if_neg hparams)
  · have hnone : ∀ t, r.table = some t → t = "" :=
      fun t h => Classical.byContradiction fun hne => ht ⟨t, h, hne⟩
    exact .inl ⟨_, fun d keys => compile_of_no_table (r := { r with inputKeys := keys }) hnone⟩

/-- Under any two dialects a descriptor fails for the same reason, or compiles to statements that
differ in their text at most, and not even there if the dialects quote and spell truth values
alike. -/
theorem agree_of_dialects (d e : Dialect) (r : Descriptor) :
    Agree SameButText (compile d r) (compile e r) ∧
      (d.quote = e.quote → d.boolText = e.boolText → compile d r = compile e r) := by
  refine ⟨?_, compile_of_spelling⟩
  rcases checks r with ⟨refusal, h⟩ | ⟨table, m, h⟩
  · have hd : compile d r = .error (.refused refusal) := h d r.inputKeys
    have he : compile e r = .error (.refused refusal) := h e r.inputKeys
    rw [hd, he]
    exact .failed _
  · have hd : compile d r = built d r table m := h d r.inputKeys
    have he : compile e r = built e r table m := h e r.inputKeys
    rw [hd, he]
    exact agree_built d e r table m

/-- A dialect without quotes that spells truth values by nothing, an empty name of a column, and a
join without a word of its own. -/
theorem agree_of_bare_dialect :
    ∃ d r s t, d = { name := "bare", quote := "", trueText := "", falseText := "" } ∧
      compile d r = .ok s ∧ compile .postgres r = .ok t ∧ SameButText s t ∧
      s.sql = "SELECT t.\nFROM t t\n JOIN  ON \nWHERE t. = ;" ∧
      t.sql = "SELECT t.\"\"\nFROM \"t\" t\n JOIN \"\" ON \nWHERE t.\"\" = TRUE;" ∧
      compile .mysql r = compile .sqlite r := by
  let d : Dialect := { name := "bare", quote := "", trueText := "", falseText := "" }
  let r : Descriptor := {
    method := "GET"
    table := some "t"
    pathParams := .ofList [("", .bool true)]
    joins := [{ table := "", condition := "", kind := .custom "" }]
    columns := [""] }
  obtain ⟨s, hs⟩ : ∃ s, compile d r = .ok s := ⟨_, rfl⟩
  obtain ⟨t, ht⟩ : ∃ t, compile .postgres r = .ok t := ⟨_, rfl⟩
  have hagree := (agree_of_dialects d .postgres r).1
  rw [hs, ht] at hagree
  obtain rfl := Except.ok.inj hs
  obtain rfl := Except.ok.inj ht
  cases hagree with
  | compiled h => exact ⟨d, r, _, _, rfl, rfl, rfl, h, by decide +kernel, by decide +kernel,
      (agree_of_dialects .mysql .sqlite r).2 rfl rfl⟩

/-- The statement with other keys in its trace. -/
def withKeys (keys : List String) (s : Statement) : Statement :=
  { s with trace := { s.trace with inputKeys := keys } }

theorem built_withKeys (d : Dialect) (r : Descriptor) (table : String) (m : Method)
    (keys : List String) : built d { r with inputKeys := keys } table m =
      (built d r table m).map (withKeys keys) := by
  cases m with
  | get =>
    cases ho : Clause.ordering d r.orderBy with
    | error v => simp only [built, select, ho, Except.map]
    | ok ordering =>
      have hsame : ({ r with inputKeys := keys } : Descriptor).orderBy = r.orderBy := rfl
      rw [built, built, select_eq ho, select_eq (hsame ▸ ho)]
      rfl
  | post | put | patch | delete => rfl

/-- The keys of the request change the trace and nothing else. -/
theorem compile_withKeys (d : Dialect) (r : Descriptor) (keys : List String) :
    compile d { r with inputKeys := keys } = (compile d r).map (withKeys keys) := by
  rcases checks r with ⟨refusal, h⟩ | ⟨table, m, h⟩
  · have hr : compile d r = .error (.refused refusal) := h d r.inputKeys
    rw [h d keys, hr]
    rfl
  · have hr : compile d r = built d r table m := h d r.inputKeys
    rw [h d keys, hr, built_withKeys]

end RequestSql.Statement
