import RequestSql.Proofs.Statement.Clauses

/-!
# The statement of a deletion

Every statement begins with the words of its operation, so its text alone tells whether it removes
rows. A deletion finds its rows with one filter, whether it removes them or clears a column of them,
and in the second case it has the text of the change that a body with that one column asks for.
-/

namespace RequestSql

/-- The words that a statement begins with. -/
def Operation.opening : Operation → String
  | .select => "SELECT "
  | .insert => "INSERT INTO "
  | .update => "UPDATE "
  | .delete => "DELETE FROM "

/-- A text begins with the words of one operation at most. -/
theorem Operation.eq_of_opening {o o' : Operation} {cs : List Char}
    (h : o.opening.toList <+: cs) (h' : o'.opening.toList <+: cs) : o = o' := by
  have hwords : o.opening.toList <+: o'.opening.toList ∨ o'.opening.toList <+: o.opening.toList :=
    List.prefix_or_prefix_of_prefix h h'
  revert hwords
  cases o <;> cases o' <;> decide

namespace Descriptor

/-- The descriptor is that of a deletion, with a table and with path parameters. -/
structure IsDeletionFrom (r : Descriptor) (table : String) : Prop where
  method : r.method = "DELETE"
  table_eq : r.table = some table
  table_ne : table ≠ ""
  params : r.pathParams.isEmpty = false

/-- The first descriptor is that of a change which clears the active column in the rows of the
second. -/
structure Deactivates (c r : Descriptor) : Prop where
  method : c.method = "PUT"
  table : c.table = r.table
  params : c.pathParams = r.pathParams
  body : c.body.entries = [("is_active", .bool false)]

end Descriptor

namespace Statement

variable {d : Dialect} {r c : Descriptor} {s : Statement} {table : String} {m : Method}

theorem opening_of_assemble (o : Operation) {first rest : String} (h : first = o.opening ++ rest)
    (clauses : List String) : o.opening.toList <+: (assemble (first :: clauses)).toList := by
  have hne : first ≠ "" := by
    intro hempty
    have hlist := congrArg String.toList (h.symm.trans hempty)
    cases o <;> simp [Operation.opening] at hlist
  rw [toList_assemble hne, h, String.toList_append, List.append_assoc]
  exact List.prefix_append _ _

theorem opening_of_built (h : built d r table m = .ok s) :
    s.operation.opening.toList <+: s.sql.toList := by
  cases m with
  | get =>
    obtain ⟨ordering, -, rfl⟩ := select_eq_ok h
    exact opening_of_assemble .select rfl _
  | post =>
    obtain rfl := Except.ok.inj h
    have hfirst : "INSERT INTO " ++ d.identifier table ++
        " (" ++ ", ".intercalate (r.body.keys.map d.identifier) ++ ")" =
          "INSERT INTO " ++ (d.identifier table ++
            (" (" ++ (", ".intercalate (r.body.keys.map d.identifier) ++ ")"))) := by
      simp only [String.append_assoc]
    exact opening_of_assemble .insert hfirst _
  | put | patch =>
    obtain rfl := Except.ok.inj h
    exact opening_of_assemble .update rfl _
  | delete =>
    obtain rfl := Except.ok.inj h
    unfold deleted
    cases r.softDelete with
    | true => exact opening_of_assemble .update rfl _
    | false => exact opening_of_assemble .delete rfl _

theorem removes_of_built (h : built d r table m = .ok s) :
    (s.operation = .delete ↔ m = .delete ∧ r.softDelete = false) ∧
      ((∃ params, s.metadata = .delete false params) ↔ m = .delete ∧ r.softDelete = false) := by
  cases m with
  | get =>
    obtain ⟨ordering, -, rfl⟩ := select_eq_ok h
    exact ⟨iff_of_false nofun nofun, iff_of_false nofun nofun⟩
  | post | put | patch =>
    obtain rfl := Except.ok.inj h
    exact ⟨iff_of_false nofun nofun, iff_of_false nofun nofun⟩
  | delete =>
    obtain rfl := Except.ok.inj h
    simp [deleted]

/-- A statement removes rows, and begins like one that does, and tells so in its metadata, exactly
if the method is `DELETE` and soft deletion is off. -/
theorem removes_of_compile (h : compile d r = .ok s) :
    (s.operation = .delete ↔ r.method = "DELETE" ∧ r.softDelete = false) ∧
      ("DELETE FROM ".toList <+: s.sql.toList ↔ r.method = "DELETE" ∧ r.softDelete = false) ∧
      ((∃ params, s.metadata = .delete false params) ↔
        r.method = "DELETE" ∧ r.softDelete = false) := by
  obtain ⟨table, m, -, -, hm, -, -, hs⟩ := compile_eq_ok h
  have hmethod : r.method = "DELETE" ↔ m = .delete := by
    rw [hm]
    cases m <;> decide
  have hopening := opening_of_built hs
  have htext : "DELETE FROM ".toList <+: s.sql.toList ↔ s.operation = .delete := by
    refine ⟨fun hdelete => Operation.eq_of_opening hopening hdelete, fun hop => ?_⟩
    rw [hop] at hopening
    exact hopening
  obtain ⟨hoperation, hmetadata⟩ := removes_of_built hs
  rw [htext, hmethod]
  exact ⟨hoperation, hoperation, hmetadata⟩

/-- The text that removes the rows of a filter. -/
def removal (d : Dialect) (table filter : String) : String :=
  assemble ["DELETE FROM " ++ d.identifier table, filter]

/-- The text that clears the active column in the rows of a filter. -/
def deactivation (d : Dialect) (table filter : String) : String :=
  assemble ["UPDATE " ++ d.identifier table,
    "SET " ++ d.identifier activeColumn ++ " = " ++ d.boolText false, filter]

/-- The statement is that of a deletion, soft or hard, of the rows that a filter finds. -/
structure IsDeletion (d : Dialect) (table filter : String) (params : Fields Value) (soft : Bool)
    (s : Statement) : Prop where
  operation : s.operation = if soft then .update else .delete
  sql : s.sql = if soft then deactivation d table filter else removal d table filter
  metadata : s.metadata = .delete soft params

/-- The filter of a deletion. It is the same for a hard and a soft one. -/
def deletionFilter (d : Dialect) (r : Descriptor) : String :=
  Clause.filter d none r.pathParams.entries

theorem where_deletionFilter (h : r.IsDeletionFrom table) :
    "WHERE ".toList <+: (deletionFilter d r).toList := by
  have hne : r.pathParams.entries ≠ [] := List.isEmpty_eq_false_iff.mp h.params
  rw [deletionFilter, Clause.filter_of_ne_nil hne, String.toList_append]
  exact List.prefix_append _ _

theorem compile_of_isDeletionFrom (h : r.IsDeletionFrom table) :
    ∃ s, compile d r = .ok s ∧
      IsDeletion d table (deletionFilter d r) (plainParams r.pathParams) r.softDelete s := by
  refine ⟨deleted d r table, ?_, rfl, rfl, rfl⟩
  rw [compile_of_method (m := .delete) h.table_eq h.table_ne h.method, h.params]
  rfl

theorem isDeletionFrom_of_compile (h : compile d r = .ok s) (hm : r.method = "DELETE") :
    ∃ table, r.IsDeletionFrom table := by
  obtain ⟨table, m, ht, hne, hm', -, hparams, -⟩ := compile_eq_ok h
  have hbounded : m.isBounded = true := by
    have hdelete : m.text = "DELETE" := hm'.symm.trans hm
    revert hdelete
    cases m <;> decide
  exact ⟨table, hm, ht, hne, List.isEmpty_eq_false_iff.mpr (hparams hbounded)⟩

theorem compile_of_deactivates (h : r.IsDeletionFrom table) (hc : c.Deactivates r) :
    ∃ s, compile d c = .ok s ∧ s.operation = .update ∧
      s.sql = deactivation d table (deletionFilter d r) := by
  have hbody : c.body.isEmpty = false := by
    rw [Fields.isEmpty, hc.body]
    rfl
  have hparams : c.pathParams.isEmpty = false := hc.params ▸ h.params
  refine ⟨updated d c table, ?_, rfl, ?_⟩
  · rw [compile_of_method (m := .put) (hc.table.trans h.table_eq) h.table_ne hc.method, hbody,
      hparams]
    rfl
  · have hassignments : ", ".intercalate (c.body.entries.map (assignment d)) =
        assignment d (activeColumn, .bool false) := by
      rw [hc.body]
      rfl
    rw [updated, hassignments, ← soft_assignment, hc.params]
    rfl

end Statement

end RequestSql
