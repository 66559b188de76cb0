import RequestSql.Proofs.Reader.Filter

/-!
# Writes read back

`Reader.writing` reads the text of an insertion, an update or a deletion to its end, told nothing
but the text. What it gives back is what the descriptor asked for: the table, the columns with their
literals in the order of the body, and the tests of the path parameters in theirs. So no name and no
value, whatever characters it holds, can end its quotes and go on as part of the statement, and no
update and no deletion is without a test.
-/

namespace RequestSql

/-- What a write says. -/
inductive Writing where
  | insert (table : String) (columns : List String) (values : List Literal)
  | update (table : String) (assignments : List (String × Literal))
      (tests : List (String × Option Literal))
  | delete (table : String) (tests : List (String × Option Literal))
  deriving DecidableEq, Repr

namespace Reader

def assignment : Reader (String × Literal) := do
  let column ← identifier
  word " = "
  (column, ·) <$> literal

/-- Reads the filter of a write, to the end of the statement. -/
def bound : Reader (List (String × Option Literal)) := do
  word "\nWHERE "
  let tests ← conjuncts ""
  word ";"
  return tests

def insertion : Reader Writing := do
  let table ← identifier
  word " ("
  let columns ← items ", " identifier
  word ")\nVALUES ("
  let values ← items ", " literal
  word ");"
  return .insert table columns values

def change : Reader Writing := do
  let table ← identifier
  word "\nSET "
  let assignments ← items ", " assignment
  .update table assignments <$> bound

def removal : Reader Writing := do
  let table ← identifier
  .delete table <$> bound

def writing : Reader Writing :=
  ifNext "INSERT INTO " insertion (ifNext "UPDATE " change do
    word "DELETE FROM "
    removal)

variable {d : Dialect}

theorem reads_assignment (hd : Readable d) (field : String × Scalar) :
    Reads assignment (Statement.assignment d field).toList
      (field.1, .ofScalar d field.2) IsBreak := by
  rw [Statement.assignment, String.append_assoc, String.toList_append, String.toList_append]
  exact (reads_identifier hd field.1).upTo " = " (isBreak_append (by decide) (by decide))
    ((reads_literal hd field.2).map _)

theorem reads_bound (hd : Readable d) {params : List (String × Scalar)} (hne : params ≠ []) :
    Reads bound (Statement.line (Clause.filter d none params) ++ [';'])
      (Literal.tests d params) (· = []) := by
  rw [Statement.line_filter d none hne, List.append_assoc]
  refine Reads.behind _ ?_
  refine (reads_conjuncts hd none hne).bind (Reads.last ";" _) fun rest _ => ?_
  exact endsItems_word (w := ";") (by decide) (by decide) (by decide) rest

theorem reads_inserted (hd : Readable d) {r : Descriptor} (table : String)
    (hbody : r.body.entries ≠ []) :
    Reads writing (Statement.inserted d r table).sql.toList
      (.insert table r.body.keys (r.body.values.map (.ofScalar d))) (· = []) := by
  have hkeys : r.body.keys ≠ [] := by simpa [Fields.keys] using hbody
  have hvalues : r.body.values ≠ [] := by simpa [Fields.values] using hbody
  have hcolumns : Reads (items ", " identifier) _ (r.body.keys.map id) (EndsItems ", ") :=
    reads_list (by decide) (by decide) (fun name _ => reads_identifier hd name) hkeys
  have hliterals : Reads (items ", " literal) _ _ (EndsItems ", ") :=
    reads_list (by decide) (by decide) (fun v _ => reads_literal hd v) hvalues
  rw [List.map_id] at hcolumns
  rw [Statement.toList_inserted]
  refine Reads.ifNext_present _ ?_
  refine (reads_identifier hd table).upTo " (" (isBreak_append (by decide) (by decide)) ?_
  refine hcolumns.upTo ")\nVALUES (" (endsItems_word (by decide) (by decide) (by decide)) ?_
  exact hliterals.bind (Reads.last ");" _) fun rest _ =>
    endsItems_word (by decide) (by decide) (by decide) rest

/-- The reading of an update behind its first word, for any assignments that are read back. -/
theorem reads_change (hd : Readable d) (table assignments : String)
    {fields : List (String × Literal)} {params : List (String × Scalar)}
    (hfields : Reads (items ", " assignment) assignments.toList fields (EndsItems ", "))
    (hne : params ≠ []) :
    Reads writing (Statement.assemble ["UPDATE " ++ d.identifier table, "SET " ++ assignments,
      Clause.filter d none params]).toList
      (.update table fields (Literal.tests d params)) (· = []) := by
  have htext : (Statement.assemble ["UPDATE " ++ d.identifier table, "SET " ++ assignments,
      Clause.filter d none params]).toList =
      "UPDATE ".toList ++ ((d.identifier table).toList ++ ("\nSET ".toList ++
        (assignments.toList ++ (Statement.line (Clause.filter d none params) ++ [';'])))) := by
    rw [Statement.toList_assemble (by simp)]
    simp [Statement.line]
  rw [htext]
  refine Reads.ifNext_other (Reads.ifNext_present _ ?_) (by decide) (by decide)
  refine (reads_identifier hd table).upTo "\nSET " (isBreak_append (by decide) (by decide)) ?_
  refine hfields.bind ((reads_bound hd hne).map _) fun rest _ => ?_
  rw [Statement.line_filter d none hne, List.append_assoc, List.append_assoc]
  exact endsItems_word (by decide) (by decide) (by decide) _

theorem reads_removal (hd : Readable d) (table : String) {params : List (String × Scalar)}
    (hne : params ≠ []) :
    Reads writing (Statement.assemble ["DELETE FROM " ++ d.identifier table,
      Clause.filter d none params]).toList (.delete table (Literal.tests d params)) (· = []) := by
  have htext : (Statement.assemble ["DELETE FROM " ++ d.identifier table,
      Clause.filter d none params]).toList =
      "DELETE FROM ".toList ++ ((d.identifier table).toList ++
        (Statement.line (Clause.filter d none params) ++ [';'])) := by
    rw [Statement.toList_assemble (by simp)]
    simp
  rw [htext]
  refine Reads.ifNext_other (Reads.ifNext_other (Reads.behind _ ?_) (by decide) (by decide))
    (by decide) (by decide)
  refine (reads_identifier hd table).bind ((reads_bound hd hne).map _) fun rest _ => ?_
  rw [Statement.line_filter d none hne, List.append_assoc, List.append_assoc]
  exact isBreak_append (by decide) (by decide) _

theorem reads_updated (hd : Readable d) {r : Descriptor} (table : String)
    (hbody : r.body.entries ≠ []) (hparams : r.pathParams.entries ≠ []) :
    Reads writing (Statement.updated d r table).sql.toList
      (.update table (r.body.entries.map fun f => (f.1, .ofScalar d f.2))
        (Literal.tests d r.pathParams.entries)) (· = []) :=
  reads_change hd table _
    (reads_list (by decide) (by decide) (fun f _ => reads_assignment hd f) hbody) hparams

/-- A soft deletion is an update that clears one column, a hard one deletes. -/
theorem reads_deleted (hd : Readable d) {r : Descriptor} (table : String)
    (hparams : r.pathParams.entries ≠ []) :
    Reads writing (Statement.deleted d r table).sql.toList
      (if r.softDelete then
        .update table [("is_active", .word (d.boolText false))]
          (Literal.tests d r.pathParams.entries)
      else .delete table (Literal.tests d r.pathParams.entries)) (· = []) := by
  cases hsoft : r.softDelete with
  | false =>
    simp only [Statement.deleted, hsoft, Bool.false_eq_true, if_false]
    exact reads_removal hd table hparams
  | true =>
    have hone : Reads (items ", " assignment) _ _ (EndsItems ", ") :=
      reads_list (by decide) (by decide) (fun f _ => reads_assignment hd f)
        (List.cons_ne_nil (activeColumn, Scalar.bool false) [])
    rw [List.map_singleton, String.intercalate_singleton] at hone
    simp only [Statement.deleted, hsoft, if_true, Statement.soft_assignment]
    exact reads_change hd table _ hone hparams

/-- Every write comes back, under every built-in dialect and for all names and values: the table,
the body in its order, and the path parameters in theirs, of which an update and a deletion have at
least one. -/
theorem whole_writing_compile (hd : d ∈ Registry.builtin.dialects) {r : Descriptor}
    {s : Statement} (h : Statement.compile d r = .ok s) :
    ∃ table, r.table = some table ∧
      (r.method = "POST" → whole writing s.sql =
        some (.insert table r.body.keys (r.body.values.map (.ofScalar d)))) ∧
      (r.method = "PUT" ∨ r.method = "PATCH" → whole writing s.sql =
        some (.update table (r.body.entries.map fun f => (f.1, .ofScalar d f.2))
          (Literal.tests d r.pathParams.entries))) ∧
      (r.method = "DELETE" → whole writing s.sql =
        some (if r.softDelete then
          .update table [("is_active", .word (d.boolText false))]
            (Literal.tests d r.pathParams.entries)
        else .delete table (Literal.tests d r.pathParams.entries))) ∧
      (r.method = "PUT" ∨ r.method = "PATCH" ∨ r.method = "DELETE" →
        Literal.tests d r.pathParams.entries ≠ []) := by
  have hread := readable_of_builtin hd
  obtain ⟨table, m, ht, -, hm, hbody, hparams, hs⟩ := Statement.compile_eq_ok h
  have htests : r.pathParams.entries ≠ [] → Literal.tests d r.pathParams.entries ≠ [] :=
    fun hp => by simpa [Literal.tests] using hp
  refine ⟨table, ht, ?_⟩
  rw [hm]
  cases m with
  | get => exact ⟨nofun, nofun, nofun, nofun⟩
  | post =>
    obtain rfl := Except.ok.inj hs
    exact ⟨fun _ => whole_eq (reads_inserted hread table (hbody rfl)) rfl, nofun, nofun, nofun⟩
  | put | patch =>
    obtain rfl := Except.ok.inj hs
    exact ⟨nofun, fun _ => whole_eq (reads_updated hread table (hbody rfl) (hparams rfl)) rfl,
      nofun, fun _ => htests (hparams rfl)⟩
  | delete =>
    obtain rfl := Except.ok.inj hs
    exact ⟨nofun, nofun, fun _ => whole_eq (reads_deleted hread table (hparams rfl)) rfl,
      fun _ => htests (hparams rfl)⟩

/-- Names and texts that hold quotes, keywords and a comment mark, and an infinite number. -/
theorem whole_writing_soft_deletion :
    ∃ r s, r.method = "DELETE" ∧ r.table = some "we`ird" ∧
      r.pathParams.entries = [("id` = 1 OR `1", .text "x' OR '1' = '1'; -- "), ("gone", .null),
        ("n", .number (.float (.infinity false)))] ∧
      Dialect.mysql ∈ Registry.builtin.dialects ∧ Statement.compile .mysql r = .ok s ∧
      whole writing s.sql = some (.update "we`ird" [("is_active", .word "0")]
        [("id` = 1 OR `1", some (.text "x' OR '1' = '1'; -- ")), ("gone", none),
          ("n", some (.word "inf"))]) := by
  let r : Descriptor := {
    method := "DELETE"
    table := some "we`ird"
    pathParams := .ofList [("id` = 1 OR `1", .text "x' OR '1' = '1'; -- "), ("gone", .null),
      ("n", .number (.float (.infinity false)))] }
  obtain ⟨s, hs⟩ : ∃ s, Statement.compile .mysql r = .ok s := ⟨_, rfl⟩
  obtain ⟨table, ht, -, -, hdelete, -⟩ := whole_writing_compile (by decide) hs
  obtain rfl := Option.some.inj ht
  exact ⟨r, s, rfl, rfl, rfl, by decide, hs, hdelete rfl⟩

end Reader

end RequestSql
