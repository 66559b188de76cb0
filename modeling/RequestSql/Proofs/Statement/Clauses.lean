import RequestSql.Proofs.Statement.Form

/-!
# The clauses of a statement

Every statement is one list of clauses: those of its method, then the filter, then the ordering if
it is a reading. An insertion has a filter on no parameters, which is the empty clause and leaves no
line.
-/

namespace RequestSql.Statement

variable {d : Dialect} {r : Descriptor} {s : Statement} {table : String} {m : Method}

/-- The parameters that the filter tests. -/
def filterParams (r : Descriptor) : Method → Fields Scalar
  | .get => readParams r
  | .post => .empty
  | .put | .patch | .delete => r.pathParams

def filterClause (d : Dialect) (r : Descriptor) (table : String) (m : Method) : String :=
  Clause.filter d (if m = .get then some (tableAlias table) else none) (filterParams r m).entries

/-- The clauses before the filter. -/
def head (d : Dialect) (r : Descriptor) (table : String) : Method → List String
  | .get => ["SELECT " ++ Clause.projection d (some (tableAlias table)) r.columns,
      "FROM " ++ d.identifier table ++ " " ++ tableAlias table, Clause.joins d r.joins]
  | .post => ["INSERT INTO " ++ d.identifier table ++
        " (" ++ ", ".intercalate (r.body.keys.map d.identifier) ++ ")",
      "VALUES (" ++ ", ".intercalate (r.body.values.map d.literal) ++ ")"]
  | .put | .patch => ["UPDATE " ++ d.identifier table,
      "SET " ++ ", ".intercalate (r.body.entries.map (assignment d))]
  | .delete =>
    if r.softDelete then ["UPDATE " ++ d.identifier table,
      "SET " ++ d.identifier activeColumn ++ " = " ++ d.boolText false]
    else ["DELETE FROM " ++ d.identifier table]

/-- A statement begins with a clause that is not empty. -/
theorem head_eq_cons (d : Dialect) (r : Descriptor) (table : String) (m : Method) :
    ∃ first rest, head d r table m = first :: rest ∧ first ≠ "" := by
  cases m with
  | get | post | put | patch => exact ⟨_, _, rfl, by simp⟩
  | delete =>
    unfold head
    cases r.softDelete with
    | false | true => exact ⟨_, _, rfl, by simp⟩

/-- The clauses behind the filter. -/
def tail (ordering : String) : Method → List String
  | .get => [ordering]
  | .post | .put | .patch | .delete => []

theorem sql_inserted : (inserted d r table).sql =
    assemble (head d r table .post ++ filterClause d r table .post :: tail "" .post) := by
  simp [inserted, head, filterClause, filterParams, tail, assemble, Clause.filter]

theorem sql_deleted : (deleted d r table).sql =
    assemble (head d r table .delete ++ filterClause d r table .delete :: tail "" .delete) := by
  unfold deleted head
  cases r.softDelete with
  | false => rfl
  | true => rfl

/-- The text behind all checks is the filter between the clauses of the method. -/
theorem sql_of_built (h : built d r table m = .ok s) :
    ∃ ordering, (m = .get → Clause.ordering d r.orderBy = .ok ordering) ∧
      s.sql = assemble (head d r table m ++ filterClause d r table m :: tail ordering m) := by
  cases m with
  | get =>
    obtain ⟨ordering, ho, rfl⟩ := select_eq_ok h
    exact ⟨ordering, fun _ => ho, rfl⟩
  | post =>
    obtain rfl := Except.ok.inj h
    exact ⟨"", nofun, sql_inserted⟩
  | put | patch =>
    obtain rfl := Except.ok.inj h
    exact ⟨"", nofun, rfl⟩
  | delete =>
    obtain rfl := Except.ok.inj h
    exact ⟨"", nofun, sql_deleted⟩

/-- The text of every statement is its filter between the clauses of its method. -/
theorem sql_of_compile (h : compile d r = .ok s) :
    ∃ table m ordering, r.table = some table ∧ r.method = m.text ∧
      s.sql = assemble (head d r table m ++ filterClause d r table m :: tail ordering m) := by
  obtain ⟨table, m, ht, -, hm, -, -, hs⟩ := compile_eq_ok h
  obtain ⟨ordering, -, hsql⟩ := sql_of_built hs
  exact ⟨table, m, ordering, ht, hm, hsql⟩

end RequestSql.Statement
