import RequestSql.Statement.Compile

/-!
# The form of a statement

What compiling gives, said once for each kind of statement. `compile` checks the table and the
method and then follows one of four ways; a write is refused without fields or without path
parameters, and a reading is refused only for an ordering that is none. The text of a statement is
its first clause, a line for each further clause that is not empty, and a semicolon.
-/

namespace RequestSql

theorem Method.ofText?_eq_some_iff {w : String} {m : Method} :
    Method.ofText? w = some m ↔ w = m.text := by
  constructor
  · intro h
    have hm := List.find?_some h
    exact (eq_of_beq hm).symm
  · rintro rfl
    cases m <;> decide

/-- The methods that write the fields of a body. -/
def Method.takesBody : Method → Bool
  | .post | .put | .patch => true
  | .get | .delete => false

/-- The methods that change rows which are there already. -/
def Method.isBounded : Method → Bool
  | .put | .patch | .delete => true
  | .get | .post => false

namespace Clause

variable {d : Dialect} {qualifier : Option String} {params : List (String × Scalar)}

theorem filter_eq_empty_iff : filter d qualifier params = "" ↔ params = [] := by
  constructor
  · intro h
    cases params with
    | nil => rfl
    | cons p ps =>
      have hlist := congrArg String.toList h
      simp [filter] at hlist
  · rintro rfl
    rfl

theorem filter_of_ne_nil (h : params ≠ []) :
    filter d qualifier params = "WHERE " ++ " AND ".intercalate (params.map (conjunct d qualifier)) :=
  if_neg (by simpa using h)

theorem join_ne_empty (j : Join) : join d j ≠ "" := by
  intro h
  have hlist := congrArg String.toList h
  simp [join] at hlist

end Clause

namespace Statement

variable {d : Dialect} {r : Descriptor} {s : Statement} {table : String} {m : Method}

/-- A clause on a line of its own; nothing for an empty clause. -/
def line (clause : String) : List Char := if clause = "" then [] else '\n' :: clause.toList

theorem line_empty : line "" = [] := rfl

theorem line_of_ne {clause : String} (h : clause ≠ "") : line clause = '\n' :: clause.toList :=
  if_neg h

theorem toList_lines (first : String) (clauses : List String) :
    ("\n".intercalate (first :: clauses)).toList =
      first.toList ++ clauses.flatMap fun c => '\n' :: c.toList := by
  induction clauses generalizing first with
  | nil => simp
  | cons c cs ih =>
    rw [String.intercalate_cons_cons, String.toList_append, String.toList_append, ih c]
    simp

/-- The text of a statement, line by line. -/
theorem toList_assemble {first : String} (h : first ≠ "") (clauses : List String) :
    (assemble (first :: clauses)).toList = first.toList ++ (clauses.flatMap line ++ [';']) := by
  have hlines : ∀ cs : List String,
      (cs.filter (· ≠ "")).flatMap (fun c => '\n' :: c.toList) = cs.flatMap line := by
    intro cs
    induction cs with
    | nil => rfl
    | cons c cs ih =>
      by_cases hc : c = ""
      · subst hc
        simpa [line_empty] using ih
      · rw [List.filter_cons_of_pos (by simpa using hc), List.flatMap_cons, List.flatMap_cons,
          ih, line_of_ne hc]
  rw [assemble, List.filter_cons_of_pos (by simpa using h), String.toList_append, toList_lines,
    hlines, List.append_assoc]
  rfl

/-- Every join has a line of its own. -/
theorem line_joins (js : List Join) :
    line (Clause.joins d js) = js.flatMap fun j => '\n' :: (Clause.join d j).toList := by
  cases js with
  | nil => rfl
  | cons j js =>
    have hne : Clause.joins d (j :: js) ≠ "" := by
      intro h
      have hlist := congrArg String.toList h
      rw [Clause.joins, List.map_cons, toList_lines] at hlist
      exact Clause.join_ne_empty j (String.toList_eq_nil_iff.mp (List.append_eq_nil_iff.mp hlist).1)
    rw [line_of_ne hne, Clause.joins, List.map_cons, toList_lines, List.flatMap_map]
    rfl

/-- The statement of a reading with a given ordering clause. -/
def selected (d : Dialect) (r : Descriptor) (table ordering : String) : Statement :=
  let shortName := tableAlias table
  let params := readParams r
  let joins := Clause.joins d r.joins
  let filter := Clause.filter d (some shortName) params.entries
  { sql := assemble [
      "SELECT " ++ Clause.projection d (some shortName) r.columns,
      "FROM " ++ d.identifier table ++ " " ++ shortName,
      joins, filter, ordering]
    operation := .select
    method := r.method
    table := table
    metadata := .select shortName (plainParams params) (joins ≠ "") (filter ≠ "") (ordering ≠ "")
    trace := traceOf r }

def inserted (d : Dialect) (r : Descriptor) (table : String) : Statement where
  sql := assemble [
    "INSERT INTO " ++ d.identifier table ++
      " (" ++ ", ".intercalate (r.body.keys.map d.identifier) ++ ")",
    "VALUES (" ++ ", ".intercalate (r.body.values.map d.literal) ++ ")"]
  operation := .insert
  method := r.method
  table := table
  metadata := .insert r.body.keys r.body.size
  trace := traceOf r

theorem toList_inserted (d : Dialect) (r : Descriptor) (table : String) :
    (inserted d r table).sql.toList =
      "INSERT INTO ".toList ++ ((d.identifier table).toList ++ (" (".toList ++
        ((", ".intercalate (r.body.keys.map d.identifier)).toList ++ (")\nVALUES (".toList ++
          ((", ".intercalate (r.body.values.map d.literal)).toList ++ ");".toList))))) := by
  rw [inserted, toList_assemble (by simp)]
  simp [line]

def updated (d : Dialect) (r : Descriptor) (table : String) : Statement where
  sql := assemble [
    "UPDATE " ++ d.identifier table,
    "SET " ++ ", ".intercalate (r.body.entries.map (assignment d)),
    Clause.filter d none r.pathParams.entries]
  operation := .update
  method := r.method
  table := table
  metadata := .update r.body.keys (plainParams r.pathParams)
  trace := traceOf r

def deleted (d : Dialect) (r : Descriptor) (table : String) : Statement where
  sql :=
    if r.softDelete then assemble [
      "UPDATE " ++ d.identifier table,
      "SET " ++ d.identifier activeColumn ++ " = " ++ d.boolText false,
      Clause.filter d none r.pathParams.entries]
    else assemble ["DELETE FROM " ++ d.identifier table, Clause.filter d none r.pathParams.entries]
  operation := if r.softDelete then .update else .delete
  method := r.method
  table := table
  metadata := .delete r.softDelete (plainParams r.pathParams)
  trace := traceOf r

/-- A soft deletion assigns false to one column. -/
theorem soft_assignment (d : Dialect) :
    "SET " ++ d.identifier activeColumn ++ " = " ++ d.boolText false =
      "SET " ++ assignment d (activeColumn, .bool false) := by
  rw [assignment, String.append_assoc, String.append_assoc, String.append_assoc]
  rfl

theorem select_eq {ordering : String} (h : Clause.ordering d r.orderBy = .ok ordering) :
    select d r table = .ok (selected d r table ordering) := by
  simp only [select, h]
  rfl

theorem select_eq_ok (h : select d r table = .ok s) :
    ∃ ordering, Clause.ordering d r.orderBy = .ok ordering ∧ s = selected d r table ordering := by
  cases ho : Clause.ordering d r.orderBy with
  | error v =>
    simp only [select, ho] at h
    cases h
  | ok ordering =>
    rw [select_eq ho] at h
    exact ⟨ordering, rfl, (Except.ok.inj h).symm⟩

theorem boundedFilter_eq : boundedFilter d r =
    if r.pathParams.isEmpty then .error (.refused (.missingIdentifier r.method))
    else .ok (Clause.filter d none r.pathParams.entries) := by
  simp only [boundedFilter, Clause.filter_eq_empty_iff, Fields.isEmpty, List.isEmpty_iff]

theorem update_eq (h : r.body.isEmpty = false) : update d r table =
    if r.pathParams.isEmpty then .error (.refused (.missingIdentifier r.method))
    else .ok (updated d r table) := by
  rw [update, h, boundedFilter_eq]
  by_cases hp : r.pathParams.isEmpty
  · rw [if_pos hp, if_pos hp]
    rfl
  · rw [if_neg hp, if_neg hp]
    rfl

theorem delete_eq : delete d r table =
    if r.pathParams.isEmpty then .error (.refused (.missingIdentifier r.method))
    else .ok (deleted d r table) := by
  rw [delete, boundedFilter_eq]
  by_cases hp : r.pathParams.isEmpty
  · rw [if_pos hp, if_pos hp]
  · rw [if_neg hp, if_neg hp]
    rfl

/-- The statement of each method, behind all checks. -/
def built (d : Dialect) (r : Descriptor) (table : String) : Method → Except CompileError Statement
  | .get => select d r table
  | .post => .ok (inserted d r table)
  | .put | .patch => .ok (updated d r table)
  | .delete => .ok (deleted d r table)

theorem compile_of_no_table (h : ∀ t, r.table = some t → t = "") :
    compile d r = .error (.refused .missingTable) := by
  unfold compile
  split
  · rfl
  · rfl
  · rename_i table hne ht
    exact absurd (h table ht) hne

theorem compile_of_unsupported (ht : r.table = some table) (hne : table ≠ "")
    (hm : Method.ofText? r.method = none) :
    compile d r = .error (.refused (.unsupportedMethod r.method)) := by
  unfold compile
  split
  · rename_i h
    rw [ht] at h
    cases h
  · rename_i h
    exact absurd (Option.some.inj (ht.symm.trans h)) hne
  · rw [hm]

/-- Behind the checks of table and method come that of the body and that of the path parameters. -/
theorem compile_of_method (ht : r.table = some table) (hne : table ≠ "") (hm : r.method = m.text) :
    compile d r =
      if m.takesBody && r.body.isEmpty then .error (.refused (.emptyBody r.method))
      else if m.isBounded && r.pathParams.isEmpty then
        .error (.refused (.missingIdentifier r.method))
      else built d r table m := by
  have hof : Method.ofText? r.method = some m := Method.ofText?_eq_some_iff.mpr hm
  unfold compile
  split
  · rename_i h
    rw [ht] at h
    cases h
  · rename_i h
    exact absurd (Option.some.inj (ht.symm.trans h)) hne
  · rename_i t _ h
    obtain rfl : table = t := Option.some.inj (ht.symm.trans h)
    rw [hof]
    cases m with
    | get => rfl
    | post =>
      change insert d r table = _
      cases hb : r.body.isEmpty with
      | true => simp [insert, hb, Method.takesBody]
      | false =>
        simp only [insert, hb, Method.takesBody, Method.isBounded, built]
        rfl
    | put | patch =>
      change update d r table = _
      cases hb : r.body.isEmpty with
      | true => simp [update, hb, Method.takesBody]
      | false => simp [update_eq hb, Method.isBounded, built]
    | delete =>
      change delete d r table = _
      simp [delete_eq, Method.takesBody, Method.isBounded, built]

/-- A statement has a table and a method, and what its method needs. -/
theorem compile_eq_ok (h : compile d r = .ok s) :
    ∃ table m, r.table = some table ∧ table ≠ "" ∧ r.method = m.text ∧
      (m.takesBody = true → r.body.entries ≠ []) ∧
      (m.isBounded = true → r.pathParams.entries ≠ []) ∧ built d r table m = .ok s := by
  by_cases ht : ∃ table, r.table = some table ∧ table ≠ ""
  · obtain ⟨table, ht, hne⟩ := ht
    cases hof : Method.ofText? r.method with
    | none =>
      rw [compile_of_unsupported ht hne hof] at h
      cases h
    | some m =>
      have hm := Method.ofText?_eq_some_iff.mp hof
      rw [compile_of_method ht hne hm] at h
      split at h
      · cases h
      split at h
      · cases h
      · rename_i hbody hparams
        refine ⟨table, m, ht, hne, hm, fun htakes hnil => hbody ?_, fun hbounded hnil => hparams ?_, h⟩
        · simp [htakes, Fields.isEmpty, hnil]
        · simp [hbounded, Fields.isEmpty, hnil]
  · rw [compile_of_no_table fun t h' => Classical.byContradiction fun hne => ht ⟨t, h', hne⟩] at h
    cases h

end Statement

end RequestSql
