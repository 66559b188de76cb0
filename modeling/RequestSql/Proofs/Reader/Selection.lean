import RequestSql.Proofs.Reader.Joins
import RequestSql.Proofs.Request.Keyword

/-!
# Readings read back

`Reader.selection` reads the text of a reading to its end, told the text and the short name that
qualifies the columns. The short name goes in without quotes, and it can hold any characters, so it
is taken as a whole wherever it stands. Conditions of joins and the direction of the ordering are
raw: the first end with their line, the second with the statement.

A reading whose joins are of known kinds and whose columns and ordering are written by the library
itself comes back complete, so two such readings with one text and one short name ask for the same.
-/

namespace RequestSql

/-- What a reading says. -/
structure Selection where
  /-- The columns in their order; nothing for all of them. -/
  columns : Option (List String)
  table : String
  joins : List Join
  tests : List (String × Option Literal)
  order : Option (String × Direction)
  deriving DecidableEq, Repr

/-- What a descriptor asks a reading to say. A direction is known by its word. -/
def Selection.ofDescriptor (d : Dialect) (r : Descriptor) (table : String) : Selection where
  columns := if wildcard ∈ r.columns then none else some r.columns
  table := table
  joins := r.joins.map Join.asRead
  tests := Literal.tests d (Statement.readParams r).entries
  order := match r.orderBy with
    | some (.column name direction) => some (name, .ofWord direction.text)
    | _ => none

/-- A direction with a word of its own is not spelled like a known one. -/
def Direction.IsProper (direction : Direction) : Prop :=
  ∀ w, direction = .custom w → ∀ k ∈ known, k.text ≠ w

theorem Direction.ofWord_text {direction : Direction} (h : direction.IsProper) :
    ofWord direction.text = direction := by
  cases direction with
  | asc => rfl
  | desc => rfl
  | custom w =>
    have hnone : known.find? (·.text == w) = none := by
      refine List.find?_eq_none.mpr fun k hk he => ?_
      exact h w rfl k hk (eq_of_beq he)
    rw [ofWord, text, hnone, Option.getD_none]

/-- A descriptor of a reading with no raw text but the conditions of its joins and its direction. -/
structure Descriptor.IsStructuredReading (r : Descriptor) (table : String) : Prop where
  method_eq : r.method = "GET"
  table_eq : r.table = some table
  table_ne : table ≠ ""
  columns_ne : r.columns ≠ []
  columns_plain : wildcard ∈ r.columns ∨ ∀ c ∈ r.columns, Clause.hasAs c.toList = false
  joins_plain : ∀ j ∈ r.joins, j.kind ∈ JoinKind.known ∧ '\n' ∉ j.condition.toList
  order_column : ∀ o, r.orderBy = some o → ∃ name direction, o = .column name direction

namespace Reader

variable {d : Dialect}

/-- Reads the columns behind a known qualifier. -/
def projection (qualifier : String) : Reader (Option (List String)) :=
  ifNext (qualifier ++ wildcard) (pure none) (some <$> items ", " do
    word qualifier
    identifier)

def tests (qualifier : String) : Reader (List (String × Option Literal)) :=
  ifNext "\nWHERE " (conjuncts qualifier) (pure [])

def order : Reader (Option (String × Direction)) :=
  ifNext "\nORDER BY " (do
    let name ← identifier
    word " "
    (fun w => some (name, .ofWord w)) <$> remainder) (pure none)

/-- Reads a reading whose columns are qualified by a short name. -/
def selection (shortName : String) : Reader Selection := do
  word "SELECT "
  let columns ← projection (shortName ++ ".")
  word "\nFROM "
  let table ← identifier
  word (" " ++ shortName)
  let joins ← joins
  let tests ← tests (shortName ++ ".")
  let order ← order
  word ";"
  return { columns, table, joins, tests, order }

theorem qualifierText_of_ne {q : String} (h : q ≠ "") :
    Clause.qualifierText (some q) = q ++ "." := by
  rw [Clause.qualifierText]
  exact h

/-- A qualifier is no wildcard where a quote follows. -/
theorem wildcard_not_isPrefix (hd : Readable d) (q : String) (rest : List Char) :
    ¬ (q ++ wildcard).toList <+: q.toList ++ (d.quote.toList ++ rest) := by
  rw [String.toList_append, List.prefix_append_right_inj]
  rcases hd.quote with h | h
  · rw [h]
    exact not_isPrefix_append (by decide) (by decide) rest
  · rw [h]
    exact not_isPrefix_append (by decide) (by decide) rest

theorem reads_column (hd : Readable d) (q name : String) :
    Reads (do word q; identifier) (q ++ d.identifier name).toList name IsBreak := by
  rw [String.toList_append]
  exact (reads_identifier hd name).behind q

theorem projection_of_wildcard {q : String} (hq : q ≠ "") {columns : List String}
    (h : wildcard ∈ columns) : Clause.projection d (some q) columns = q ++ "." ++ wildcard := by
  rw [Clause.projection, if_pos h]
  exact hq

theorem projection_of_columns {q : String} (hq : q ≠ "") {columns : List String}
    (h : wildcard ∉ columns) (hcolumns : ∀ c ∈ columns, Clause.hasAs c.toList = false) :
    Clause.projection d (some q) columns =
      ", ".intercalate (columns.map fun c => q ++ "." ++ d.identifier c) := by
  have hmap : columns.map (Clause.column d (some q)) =
      columns.map fun c => q ++ "." ++ d.identifier c := by
    refine List.map_congr_left fun c hc => ?_
    rw [Clause.column, hcolumns c hc, if_neg Bool.false_ne_true, Clause.qualified_eq,
      qualifierText_of_ne hq]
  rw [Clause.projection, if_neg h, hmap]
  exact hq

theorem reads_projection (hd : Readable d) {q : String} (hq : q ≠ "") {columns : List String}
    (hne : columns ≠ [])
    (hcolumns : wildcard ∈ columns ∨ ∀ c ∈ columns, Clause.hasAs c.toList = false) :
    Reads (projection (q ++ ".")) (Clause.projection d (some q) columns).toList
      (if wildcard ∈ columns then none else some columns) (EndsItems ", ") := by
  by_cases hall : wildcard ∈ columns
  · rw [if_pos hall, projection_of_wildcard hq hall]
    have h : Reads (projection (q ++ ".")) ((q ++ "." ++ wildcard).toList ++ []) none
        (EndsItems ", ") := (Reads.pure none).ifNext_present _
    rwa [List.append_nil] at h
  · rw [if_neg hall, projection_of_columns hq hall (hcolumns.resolve_left hall)]
    have hlist : Reads (items ", " (do word (q ++ "."); identifier)) _ (columns.map id)
        (EndsItems ", ") :=
      reads_list (by decide) (by decide) (fun c _ => reads_column hd (q ++ ".") c) hne
    rw [List.map_id] at hlist
    refine (hlist.map some).ifNext_absent fun rest _ => ?_
    obtain ⟨c, cs, rfl⟩ := List.exists_cons_of_ne_nil hne
    obtain ⟨more, hmore⟩ : ∃ more,
        (", ".intercalate ((c :: cs).map fun c => q ++ "." ++ d.identifier c)).toList ++ rest =
          (q ++ ".").toList ++ (d.quote.toList ++ more) := by
      simp only [List.map_cons, String.intercalate_cons_append, Dialect.identifier,
        String.toList_append, List.append_assoc]
      exact ⟨_, rfl⟩
    rw [hmore]
    exact wildcard_not_isPrefix hd (q ++ ".") more

/-- What ends the tests: the end of the statement or its ordering. -/
def EndsTests (rest : List Char) : Prop :=
  rest = [';'] ∨ ∃ more, rest = "\nORDER BY ".toList ++ more

theorem reads_tests (hd : Readable d) {q : String} (hq : q ≠ "")
    (params : List (String × Scalar)) :
    Reads (tests (q ++ ".")) (Statement.line (Clause.filter d (some q) params))
      (Literal.tests d params) EndsTests := by
  by_cases hne : params = []
  · have hempty : Statement.line (Clause.filter d (some q) params) = [] := by
      rw [Clause.filter_eq_empty_iff.mpr hne, Statement.line_empty]
    rw [hempty, hne]
    refine Reads.ifNext_absent (Reads.pure []) ?_
    rintro rest (rfl | ⟨more, rfl⟩)
    · decide
    · exact not_isPrefix_append (by decide) (by decide) more
  · have hall := reads_conjuncts hd (some q) hne
    rw [qualifierText_of_ne hq] at hall
    rw [Statement.line_filter d (some q) hne]
    refine (hall.mono ?_).ifNext_present _
    rintro rest (rfl | ⟨more, rfl⟩)
    · exact ⟨by decide, by decide⟩
    · exact endsItems_word (by decide) (by decide) (by decide) more

def orderText (d : Dialect) : Option (String × Direction) → String
  | none => ""
  | some (name, direction) => "ORDER BY " ++ d.identifier name ++ " " ++ direction.text

theorem line_orderText (name : String) (direction : Direction) :
    Statement.line (orderText d (some (name, direction))) = "\nORDER BY ".toList ++
      ((d.identifier name).toList ++ (" ".toList ++ direction.text.toList)) := by
  rw [Statement.line_of_ne]
  · simp [orderText]
  · intro h
    have hlist := congrArg String.toList h
    simp [orderText] at hlist

theorem reads_order (hd : Readable d) (o : Option (String × Direction)) :
    Reads order (Statement.line (orderText d o))
      (o.map fun p => (p.1, .ofWord p.2.text)) (· = [';']) := by
  cases o with
  | none =>
    have hempty : Statement.line (orderText d none) = [] := rfl
    rw [hempty]
    refine Reads.ifNext_absent (Reads.pure none) ?_
    rintro rest rfl
    decide
  | some p =>
    obtain ⟨name, direction⟩ := p
    rw [line_orderText]
    refine Reads.ifNext_present _ ?_
    exact (reads_identifier hd name).upTo " " (isBreak_append (by decide) (by decide))
      ((reads_remainder direction.text).map _)

theorem endsTests_order (o : Option (String × Direction)) :
    EndsTests (Statement.line (orderText d o) ++ [';']) := by
  cases o with
  | none => exact .inl rfl
  | some p =>
    rw [line_orderText p.1 p.2, List.append_assoc]
    exact .inr ⟨_, rfl⟩

/-- A line with another first word starts no join. -/
theorem endsJoins_word {w : String} (hline : w.toList.head? = some '\n')
    (hw : ∀ kind ∈ JoinKind.known,
      ¬ (joinStart kind).toList <+: w.toList ∧ ¬ w.toList <+: (joinStart kind).toList)
    (more : List Char) : EndsJoins (w.toList ++ more) := by
  constructor
  · obtain ⟨cs, hcs⟩ := List.head?_eq_some_iff.mp hline
    rw [hcs]
    exact .inr ⟨_, rfl⟩
  · intro kind hkind
    exact not_isPrefix_append (hw kind hkind).1 (hw kind hkind).2 more

theorem endsJoins_filter (q : String) (params : List (String × Scalar)) {rest : List Char}
    (h : EndsTests rest) :
    EndsJoins (Statement.line (Clause.filter d (some q) params) ++ rest) := by
  by_cases hne : params = []
  · rw [Clause.filter_eq_empty_iff.mpr hne, Statement.line_empty, List.nil_append]
    rcases h with rfl | ⟨more, rfl⟩
    · exact ⟨.inl rfl, by decide⟩
    · exact endsJoins_word rfl (by decide) more
  · rw [Statement.line_filter d (some q) hne, List.append_assoc]
    exact endsJoins_word rfl (by decide) _

theorem toList_selected (d : Dialect) (r : Descriptor) (table ordering : String) :
    (Statement.selected d r table ordering).sql.toList = "SELECT ".toList ++
      ((Clause.projection d (some (tableAlias table)) r.columns).toList ++ ("\nFROM ".toList ++
        ((d.identifier table).toList ++ ((" " ++ tableAlias table).toList ++
          (Statement.line (Clause.joins d r.joins) ++
            (Statement.line (Clause.filter d (some (tableAlias table))
                (Statement.readParams r).entries) ++
              (Statement.line ordering ++ ";".toList))))))) := by
  rw [Statement.selected, Statement.toList_assemble (by simp)]
  simp [Statement.line_of_ne]

theorem tableAlias_ne {table : String} (h : table ≠ "") : tableAlias table ≠ "" := by
  intro he
  have hlist := congrArg String.toList he
  simp [tableAlias] at hlist
  exact h hlist

theorem ordering_of_structured {r : Descriptor} {table : String}
    (hr : r.IsStructuredReading table) :
    ∃ o, Clause.ordering d r.orderBy = .ok (orderText d o) ∧
      (Selection.ofDescriptor d r table).order = o.map fun p => (p.1, .ofWord p.2.text) := by
  cases ho : r.orderBy with
  | none => exact ⟨none, rfl, by simp [Selection.ofDescriptor, ho]⟩
  | some o =>
    obtain ⟨name, direction, rfl⟩ := hr.order_column o ho
    exact ⟨some (name, direction), rfl, by simp [Selection.ofDescriptor, ho]⟩

theorem reads_selected (hd : Readable d) {r : Descriptor} {table : String}
    (hr : r.IsStructuredReading table) {o : Option (String × Direction)}
    (ho : (Selection.ofDescriptor d r table).order = o.map fun p => (p.1, .ofWord p.2.text)) :
    Reads (selection (tableAlias table)) (Statement.selected d r table (orderText d o)).sql.toList
      (Selection.ofDescriptor d r table) (· = []) := by
  have hq := tableAlias_ne hr.table_ne
  rw [toList_selected]
  refine Reads.behind _ ?_
  refine (reads_projection hd hq hr.columns_ne hr.columns_plain).upTo "\nFROM "
    (endsItems_word (by decide) (by decide) (by decide)) ?_
  refine (reads_identifier hd table).upTo (" " ++ tableAlias table) ?_ ?_
  · intro rest
    rw [String.toList_append, List.append_assoc]
    exact isBreak_append (by decide) (by decide) _
  refine (reads_joins hd hr.joins_plain).bind ?_ ?_
  · refine (reads_tests hd hq _).bind ?_ ?_
    · refine (reads_order hd o).bind ?_ ?_
      · rw [← ho]
        exact Reads.last ";" _
      · rintro rest rfl
        rfl
    · rintro rest rfl
      rw [List.append_nil]
      exact endsTests_order o
  · rintro rest rfl
    rw [List.append_nil]
    exact endsJoins_filter _ _ (endsTests_order o)

theorem whole_selection_of_structured (hd : d ∈ Registry.builtin.dialects) {r : Descriptor}
    {table : String} (hr : r.IsStructuredReading table) :
    ∃ s, Statement.compile d r = .ok s ∧
      whole (selection (tableAlias table)) s.sql = some (.ofDescriptor d r table) := by
  obtain ⟨o, hordering, ho⟩ := ordering_of_structured (d := d) hr
  refine ⟨Statement.selected d r table (orderText d o), ?_, ?_⟩
  · rw [Statement.compile_of_method (m := .get) hr.table_eq hr.table_ne hr.method_eq]
    exact Statement.select_eq hordering
  · exact whole_eq (reads_selected (readable_of_builtin hd) hr ho) rfl

end Reader

end RequestSql
