import RequestSql.Proofs.Lexical
import RequestSql.Proofs.Pipeline.Outcome
import RequestSql.Proofs.Reader.Filter
import RequestSql.Proofs.Statement.Clauses

/-!
# What the check finds in a statement

All that the library writes itself leaves the scanner where it was: fixed words, names and literals,
whatever they hold. So only the raw texts of a reading can leave something open in a statement, and
where each of them is closed a parser that rejects what is open has nothing to say. Updates,
insertions and deletions have no raw texts. The check only adds findings, it changes neither the
statement nor the error.
-/

namespace RequestSql

/-- The texts of a join that go in as they are. -/
def Join.rawTexts (j : Join) : List String :=
  match j.kind with
  | .custom word => [word, j.condition]
  | _ => [j.condition]

/-- The texts of an ordering that go in as they are. -/
def OrderBy.rawTexts : OrderBy → List String
  | .text expression => [expression]
  | .list expressions => expressions
  | .column _ (.custom word) => [word]
  | .column _ _ | .unknown _ => []

/-- The texts of a reading that go in as they are. A wildcard stands for all columns, so beside one
no column does. -/
def Descriptor.rawTexts (r : Descriptor) (table : String) : List String :=
  tableAlias table ::
    ((if wildcard ∈ r.columns then [] else r.columns.filter fun c => Clause.hasAs c.toList) ++
      (r.joins.flatMap Join.rawTexts ++ r.orderBy.toList.flatMap OrderBy.rawTexts))

open Lexical (AreQuotes Closed Neutral)

/-- A grammar with these quotes knows the quote of the dialect, and its truth values are words. -/
structure Dialect.KnownBy (d : Dialect) (quotes : List Char) : Prop where
  areQuotes : AreQuotes quotes
  quote : ∃ q ∈ quotes, d.quote.toList = [q]
  boolText (b : Bool) : Text.IsWord (d.boolText b).toList

variable {d : Dialect} {quotes : List Char}

/-- The quote of a built-in dialect is enough to know it by. -/
theorem Dialect.knownBy_of_builtin (hd : d ∈ Registry.builtin.dialects) :
    d.KnownBy d.quote.toList := by
  have hbool := (Reader.readable_of_builtin hd).boolText
  have hcases : d = .mysql ∨ d = .postgres ∨ d = .sqlite := by simpa using hd
  rcases hcases with rfl | rfl | rfl
  · exact ⟨by simp [AreQuotes, mysql], ⟨'`', by decide, rfl⟩, hbool⟩
  · exact ⟨by simp [AreQuotes, postgres], ⟨'"', by decide, rfl⟩, hbool⟩
  · exact ⟨by simp [AreQuotes, sqlite], ⟨'`', by decide, rfl⟩, hbool⟩

theorem Dialect.exists_grammar_of_builtin (hd : d ∈ Registry.builtin.dialects) :
    ∃ g, Grammar.ofName? d.name = some g := by
  have hcases : d = .mysql ∨ d = .postgres ∨ d = .sqlite := by simpa using hd
  rcases hcases with rfl | rfl | rfl
  · exact ⟨.mysql, by decide⟩
  · exact ⟨.postgres, by decide⟩
  · exact ⟨.sqlite, by decide⟩

namespace Clause

variable (h : d.KnownBy quotes)

include h

theorem neutral_word {w : String} (hw : w.toList.all Lexical.isOrdinary = true) :
    Neutral quotes w :=
  .of_ordinary h.areQuotes hw

theorem neutral_identifier (name : String) : Neutral quotes (d.identifier name) := by
  obtain ⟨q, hq, hquote⟩ := h.quote
  have htext : (d.identifier name).toList = q :: (Text.doubled [q] name.toList ++ [q]) := by
    rw [Dialect.toList_identifier, hquote]
    rfl
  exact .of_doubled h.areQuotes (.inr hq) htext

theorem neutral_of_isWord {w : String} (hw : Text.IsWord w.toList) : Neutral quotes w :=
  neutral_word h (List.all_eq_true.mpr fun c hc => Lexical.isOrdinary_of_isWordChar (hw.all c hc))

theorem neutral_literal (v : Scalar) : Neutral quotes (d.literal v) := by
  cases v with
  | null => exact neutral_of_isWord h (w := "NULL") (by decide)
  | bool b => exact neutral_of_isWord h (h.boolText b)
  | number n => exact neutral_of_isWord h (Reader.isWord_number n)
  | text s => exact .of_doubled h.areQuotes (.inl rfl) (Dialect.toList_stringLiteral s)

theorem neutral_assignment (field : String × Scalar) :
    Neutral quotes (Statement.assignment d field) :=
  ((neutral_identifier h field.1).append (neutral_word h (by decide))).append
    (neutral_literal h field.2)

theorem neutral_operandText (v : Scalar) : Neutral quotes (operandText d v) := by
  cases v with
  | null => exact neutral_word h (w := " IS NULL") (by decide)
  | bool | number | text => exact (neutral_word h (by decide)).append (neutral_literal h _)

theorem neutral_list {α : Type} {separator : String}
    (hs : separator.toList.all Lexical.isOrdinary = true) {write : α → String} {items : List α}
    (hitems : ∀ a ∈ items, Neutral quotes (write a)) :
    Neutral quotes (separator.intercalate (items.map write)) :=
  .intercalate (neutral_word h hs) fun _ ht => by
    obtain ⟨a, ha, rfl⟩ := List.mem_map.mp ht
    exact hitems a ha

section Qualified

variable {qualifier : Option String} (hq : ∀ q, qualifier = some q → Neutral quotes q)

include hq

theorem neutral_qualifierText : Neutral quotes (qualifierText qualifier) := by
  unfold qualifierText
  split
  · exact .empty
  · exact .empty
  · exact (hq _ rfl).append (neutral_word h (by decide))

theorem neutral_qualified (name : String) : Neutral quotes (qualified d qualifier name) := by
  rw [qualified_eq]
  exact (neutral_qualifierText h hq).append (neutral_identifier h name)

theorem neutral_filter (params : List (String × Scalar)) :
    Neutral quotes (filter d qualifier params) := by
  unfold filter
  split
  · exact .empty
  · refine (neutral_word h (by decide)).append (neutral_list h (by decide) fun p _ => ?_)
    rw [conjunct_eq]
    exact (neutral_qualifierText h hq).append
      ((neutral_identifier h p.1).append (neutral_operandText h p.2))

theorem neutral_projection {columns : List String}
    (hcolumns : wildcard ∉ columns → ∀ c ∈ columns, hasAs c.toList = true → Neutral quotes c) :
    Neutral quotes (projection d qualifier columns) := by
  unfold projection
  split
  · split
    · exact neutral_word h (by decide)
    · exact neutral_word h (by decide)
    · exact ((hq _ rfl).append (neutral_word h (by decide))).append (neutral_word h (by decide))
  · rename_i hall
    refine neutral_list h (by decide) fun c hc => ?_
    unfold column
    split
    · exact hcolumns hall c hc ‹_›
    · exact neutral_qualified h hq c

end Qualified

theorem neutral_join {j : Join} (hj : ∀ text ∈ j.rawTexts, Neutral quotes text) :
    Neutral quotes (join d j) := by
  obtain ⟨table, condition, kind, name⟩ := j
  have hkind : Neutral quotes kind.text := by
    cases kind with
    | custom word => exact hj word (by simp [Join.rawTexts])
    | left | inner | right | full | cross => exact neutral_word h (by decide)
  have hcondition : Neutral quotes condition := by
    refine hj condition ?_
    unfold Join.rawTexts
    split <;> simp
  have hwords : Neutral quotes " JOIN " ∧ Neutral quotes " ON " :=
    ⟨neutral_word h (by decide), neutral_word h (by decide)⟩
  refine (((hkind.append hwords.1).append ?_).append hwords.2).append hcondition
  dsimp only
  split
  · exact neutral_identifier h table
  · exact neutral_identifier h table
  · exact ((neutral_identifier h table).append (neutral_word h (by decide))).append
      (neutral_identifier h _)

theorem neutral_ordering {o : Option OrderBy} {ordering : String}
    (ho : Clause.ordering d o = .ok ordering)
    (hraw : ∀ text ∈ o.toList.flatMap OrderBy.rawTexts, Neutral quotes text) :
    Neutral quotes ordering := by
  cases o with
  | none =>
    obtain rfl := Except.ok.inj ho
    exact .empty
  | some o =>
    have hraw : ∀ text ∈ o.rawTexts, Neutral quotes text := by simpa using hraw
    cases o with
    | text e =>
      obtain rfl := Except.ok.inj ho
      exact (neutral_word h (by decide)).append (hraw e (by simp [OrderBy.rawTexts]))
    | list es =>
      obtain rfl := Except.ok.inj ho
      exact (neutral_word h (by decide)).append (.intercalate (neutral_word h (by decide)) hraw)
    | column name direction =>
      obtain rfl := Except.ok.inj ho
      have hdirection : Neutral quotes direction.text := by
        cases direction with
        | custom word => exact hraw word (by simp [OrderBy.rawTexts])
        | asc | desc => exact neutral_word h (by decide)
      exact (((neutral_word h (by decide)).append (neutral_identifier h name)).append
        (neutral_word h (by decide))).append hdirection
    | unknown v => cases ho

end Clause

namespace Statement

variable {r : Descriptor} {s : Statement} {table : String} {m : Method}

theorem neutral_assemble (h : d.KnownBy quotes) {clauses : List String}
    (hclauses : ∀ c ∈ clauses, Neutral quotes c) : Neutral quotes (assemble clauses) :=
  (Neutral.intercalate (Clause.neutral_word h (by decide)) fun c hc =>
    hclauses c (List.mem_of_mem_filter hc)).append (Clause.neutral_word h (by decide))

theorem neutral_inserted (h : d.KnownBy quotes) :
    ∀ c ∈ head d r table .post, Neutral quotes c := by
  have hcolumns : Neutral quotes (", ".intercalate (r.body.keys.map d.identifier)) :=
    Clause.neutral_list h (by decide) fun name _ => Clause.neutral_identifier h name
  have hvalues : Neutral quotes (", ".intercalate (r.body.values.map d.literal)) :=
    Clause.neutral_list h (by decide) fun v _ => Clause.neutral_literal h v
  have hopening : " (" = " " ++ "(" := rfl
  simp only [head, List.forall_mem_cons]
  refine ⟨?_, ?_, List.forall_mem_nil _⟩
  · rw [hopening, ← String.append_assoc]
    refine .parenthesized h.areQuotes (.append ?_ (Clause.neutral_word h (by decide))) hcolumns
    exact (Clause.neutral_word h (by decide)).append (Clause.neutral_identifier h table)
  · exact .parenthesized h.areQuotes (s := "VALUES ") (Clause.neutral_word h (by decide)) hvalues

theorem neutral_changed (h : d.KnownBy quotes) {assignments : String}
    (ha : Neutral quotes assignments) :
    ∀ c ∈ ["UPDATE " ++ d.identifier table, "SET " ++ assignments], Neutral quotes c := by
  simp only [List.forall_mem_cons]
  exact ⟨(Clause.neutral_word h (by decide)).append (Clause.neutral_identifier h table),
    (Clause.neutral_word h (by decide)).append ha, List.forall_mem_nil _⟩

theorem neutral_head (h : d.KnownBy quotes)
    (hraw : m = .get → ∀ text ∈ r.rawTexts table, Neutral quotes text) :
    ∀ c ∈ head d r table m, Neutral quotes c := by
  cases m with
  | get =>
    have hraw := hraw rfl
    have halias : Neutral quotes (tableAlias table) := hraw _ List.mem_cons_self
    simp only [head, List.forall_mem_cons]
    refine ⟨?_, ?_, ?_, List.forall_mem_nil _⟩
    · refine (Clause.neutral_word h (by decide)).append (Clause.neutral_projection h ?_ ?_)
      · rintro q ⟨⟩
        exact halias
      · intro hall c hc has
        refine hraw c (List.mem_cons_of_mem _ (List.mem_append_left _ ?_))
        rw [if_neg hall]
        exact List.mem_filter.mpr ⟨hc, has⟩
    · exact (((Clause.neutral_word h (by decide)).append (Clause.neutral_identifier h table)).append
        (Clause.neutral_word h (by decide))).append halias
    · refine Clause.neutral_list h (by decide) fun j hj => Clause.neutral_join h fun text ht => ?_
      refine hraw text (List.mem_cons_of_mem _ (List.mem_append_right _ (List.mem_append_left _ ?_)))
      exact List.mem_flatMap.mpr ⟨j, hj, ht⟩
  | post => exact neutral_inserted h
  | put | patch =>
    exact neutral_changed h
      (Clause.neutral_list h (by decide) fun field _ => Clause.neutral_assignment h field)
  | delete =>
    unfold head
    cases r.softDelete with
    | true =>
      rw [if_pos rfl, soft_assignment]
      exact neutral_changed h (Clause.neutral_assignment h _)
    | false =>
      rw [if_neg Bool.false_ne_true, List.forall_mem_cons]
      exact ⟨(Clause.neutral_word h (by decide)).append (Clause.neutral_identifier h table),
        List.forall_mem_nil _⟩

theorem neutral_tail (ordering : String) (h : m = .get → Neutral quotes ordering) :
    ∀ c ∈ tail ordering m, Neutral quotes c := by
  intro c hc
  cases m with
  | get =>
    obtain rfl := List.mem_singleton.mp hc
    exact h rfl
  | post | put | patch | delete => exact absurd hc List.not_mem_nil

/-- Nothing is left open by a statement whose raw texts leave nothing open. -/
theorem neutral_sql (h : d.KnownBy quotes) (hs : compile d r = .ok s)
    (hraw : r.method = "GET" → ∀ table, r.table = some table →
      ∀ text ∈ r.rawTexts table, Neutral quotes text) : Neutral quotes s.sql := by
  obtain ⟨table, m, ht, -, hm, -, -, hbuilt⟩ := compile_eq_ok hs
  obtain ⟨ordering, ho, hsql⟩ := sql_of_built hbuilt
  have hraw : m = .get → ∀ text ∈ r.rawTexts table, Neutral quotes text := by
    rintro rfl
    exact hraw hm table ht
  rw [hsql]
  refine neutral_assemble h fun c hc => ?_
  rcases List.mem_append.mp hc with hhead | htail
  · exact neutral_head h hraw c hhead
  rcases List.mem_cons.mp htail with rfl | htail
  · refine Clause.neutral_filter h ?_ _
    intro q hq
    split at hq
    · rename_i hget
      obtain rfl := Option.some.inj hq
      exact hraw hget _ List.mem_cons_self
    · cases hq
  · refine neutral_tail ordering (fun hget => ?_) c htail
    refine Clause.neutral_ordering h (ho hget) fun text htext => ?_
    refine hraw hget text (List.mem_cons_of_mem _ ?_)
    exact List.mem_append_right _ (List.mem_append_right _ htext)

end Statement

/-- Where the descriptor is a reading, each of its raw texts is closed. -/
def Descriptor.IsClosed (quotes : List Char) (r : Descriptor) : Prop :=
  r.method = "GET" → ∀ table, r.table = some table →
    ∀ text ∈ r.rawTexts table, Closed quotes 0 text.toList

theorem Statement.isOpen_of_closed (h : d.KnownBy quotes) {r : Descriptor} {s : Statement}
    (hclosed : r.IsClosed quotes) (hs : Statement.compile d r = .ok s) :
    Lexical.isOpen quotes s.sql.toList = false := by
  refine Lexical.isOpen_of_neutral (Statement.neutral_sql h hs ?_)
  intro hget table ht text htext
  exact .of_closed h.areQuotes (hclosed hget table ht text htext)

/-- The parser rejects the statement exactly if a string or a parenthesis is open at its end, with
these quotes around names. -/
def Parser.RejectsOpen (parse : Parser) (g : Grammar) (quotes : List Char) (sql : String) : Prop :=
  (parse g sql).isSome = true ↔ Lexical.isOpen quotes sql.toList = true

theorem Lexical.rejectsOpen (quotes : Grammar → List Char) (g : Grammar) (sql : String) :
    (rejectOpen quotes).RejectsOpen g (quotes g) sql := by
  unfold Parser.RejectsOpen rejectOpen
  cases isOpen (quotes g) sql.toList <;> simp

namespace Pipeline

variable {registry : Registry} {parse : Parser} {r : Descriptor} {name : Value} {result : Result}

theorem warnings_of_closed {g : Grammar} (hfind : registry.get? d.name = some d)
    (hg : Grammar.ofName? d.name = some g) (hknown : d.KnownBy quotes) (hclosed : r.IsClosed quotes)
    (h : compileDescriptor registry true r (.text d.name) parse = .ok result)
    (hparse : parse.RejectsOpen g quotes result.statement.sql) :
    result.warnings = [] ∧ result.isValid = true := by
  obtain ⟨d', hd', hs, -, hfindings⟩ := compileDescriptor_eq_ok h
  obtain rfl : d = d' := Except.ok.inj ((Registry.find_of_get? hfind).symm.trans hd')
  have hopen := Statement.isOpen_of_closed hknown hclosed hs
  have haccepted : parse g result.statement.sql = none := by
    refine Option.not_isSome_iff_eq_none.mp fun hsome => ?_
    exact Bool.false_ne_true (hopen.symm.trans (hparse.mp hsome))
  have hnone : result.findings = [] := by
    rw [hfindings, if_pos rfl, check, hg]
    simp only [haccepted]
    rfl
  rw [Result.warnings, Result.isValid, hnone]
  exact ⟨rfl, rfl⟩

theorem statement_compileDescriptor (registry : Registry) (parse parse' : Parser) (r : Descriptor)
    (name : Value) :
    (compileDescriptor registry true r name parse).map Result.statement =
      (compileDescriptor registry false r name parse').map Result.statement := by
  unfold compileDescriptor
  cases registry.find name with
  | error e => rfl
  | ok d =>
    dsimp only
    cases Statement.compile d r with
    | error e => rfl
    | ok s => rfl

/-- A run for a dialect that checks its statement, from a descriptor or from a request that is read
as that descriptor. -/
inductive IsCheckedRun (registry : Registry) (parse : Parser) (r : Descriptor) (dialect : String)
    (result : Result) : Prop
  | descriptor (h : compileDescriptor registry true r (.text dialect) parse = .ok result) :
      IsCheckedRun registry parse r dialect result
  | request {v : Value} (hr : Descriptor.read v = .ok r)
      (h : compile registry true v (.text dialect) parse = .ok result) :
      IsCheckedRun registry parse r dialect result

theorem IsCheckedRun.compileDescriptor_eq {dialect : String}
    (h : IsCheckedRun registry parse r dialect result) :
    compileDescriptor registry true r (.text dialect) parse = .ok result := by
  cases h with
  | descriptor h => exact h
  | request hr h => rwa [compile_of_read hr] at h

theorem warnings_of_builtin (hd : d ∈ Registry.builtin.dialects)
    (hfind : registry.get? d.name = some d) (hclosed : r.IsClosed d.quote.toList)
    (hrun : IsCheckedRun registry parse r d.name result)
    (hparse : ∀ g, Grammar.ofName? d.name = some g →
      parse.RejectsOpen g d.quote.toList result.statement.sql) :
    result.warnings = [] ∧ result.isValid = true := by
  obtain ⟨g, hg⟩ := Dialect.exists_grammar_of_builtin hd
  exact warnings_of_closed hfind hg (Dialect.knownBy_of_builtin hd) hclosed
    hrun.compileDescriptor_eq (hparse g hg)

/-- Let the parser reject a statement exactly if something is open at its end. Then a statement for
a built-in dialect has no warnings and is valid if its raw texts are closed, with the quote of the
dialect around names, and so is every write. The same holds for any dialect under the name of a
grammar, and for parsers that know other quotes, as long as they know those of the dialect. The
check has no part in the statement and none in the error, whatever the parser. -/
theorem check_of_closed_texts (registry : Registry) (parse : Parser) :
    (∀ d ∈ Registry.builtin.dialects, registry.get? d.name = some d →
      ∀ r : Descriptor, r.IsClosed d.quote.toList → ∀ result,
        IsCheckedRun registry parse r d.name result →
        (∀ g, Grammar.ofName? d.name = some g →
          parse.RejectsOpen g d.quote.toList result.statement.sql) →
        result.warnings = [] ∧ result.isValid = true) ∧
    (∀ (d : Dialect) (g : Grammar) (quotes : List Char), registry.get? d.name = some d →
      Grammar.ofName? d.name = some g → d.KnownBy quotes →
      ∀ r : Descriptor, r.IsClosed quotes → ∀ result, IsCheckedRun registry parse r d.name result →
        parse.RejectsOpen g quotes result.statement.sql →
        result.warnings = [] ∧ result.isValid = true) ∧
    (∀ r : Descriptor, r.method ≠ "GET" → (∀ quotes, r.IsClosed quotes) ∧
      ∀ d ∈ Registry.builtin.dialects, registry.get? d.name = some d → ∀ result,
        IsCheckedRun registry parse r d.name result →
        (∀ g, Grammar.ofName? d.name = some g →
          parse.RejectsOpen g d.quote.toList result.statement.sql) →
        result.warnings = [] ∧ result.isValid = true) ∧
    ∀ (name : Value) (parse' : Parser),
      (∀ r, (compileDescriptor registry true r name parse).map Result.statement =
        (compileDescriptor registry false r name parse').map Result.statement) ∧
      ∀ v, (compile registry true v name parse).map Result.statement =
        (compile registry false v name parse').map Result.statement := by
  refine ⟨?builtin, ?known, ?writes, fun name parse' => ⟨?descriptors, ?requests⟩⟩
  case builtin =>
    exact fun d hd hfind r hclosed result hrun => warnings_of_builtin hd hfind hclosed hrun
  case known =>
    intro d g quotes hfind hg hknown r hclosed result hrun hparse
    exact warnings_of_closed hfind hg hknown hclosed hrun.compileDescriptor_eq hparse
  case writes =>
    intro r hm
    have hclosed (quotes : List Char) : r.IsClosed quotes := fun hget => absurd hget hm
    exact ⟨hclosed, fun d hd hfind result => warnings_of_builtin hd hfind (hclosed _)⟩
  case descriptors => exact fun r => statement_compileDescriptor registry parse parse' r name
  case requests =>
    intro v
    cases hread : Descriptor.read v with
    | faulty faults => rw [compile_of_faulty hread, compile_of_faulty hread]
    | ok r =>
      rw [compile_of_read hread, compile_of_read hread]
      exact statement_compileDescriptor registry parse parse' r name

/-- A short name of two quotes, names and values that hold quotes and parentheses, and raw texts
that hold closed ones. A double quote is no quote of the dialect, so it may stand alone. -/
theorem check_of_misleading_texts :
    ∃ r parse result, r.table = some "''s" ∧ r.columns = ["a' (`", "f(a) AS b"] ∧
      r.joins = [{ table := "(", condition := "a = \"", kind := .custom "`(`" },
        { table := "u", condition := "b = ('\"')" }] ∧
      r.pathParams.entries = [("k`(", .text "'(\"")] ∧ r.orderBy = some (.list ["g(')')", "``"]) ∧
      parse = Lexical.rejectOpen (fun _ => ['`']) ∧
      IsCheckedRun .builtin parse r "mysql" result ∧
      result.warnings = [] ∧ result.isValid = true := by
  let r : Descriptor := {
    method := "GET"
    table := some "''s"
    pathParams := .ofList [("k`(", .text "'(\"")]
    joins := [{ table := "(", condition := "a = \"", kind := .custom "`(`" },
      { table := "u", condition := "b = ('\"')" }]
    columns := ["a' (`", "f(a) AS b"]
    orderBy := some (.list ["g(')')", "``"]) }
  let parse : Parser := Lexical.rejectOpen fun _ => ['`']
  have htexts : r.rawTexts "''s" =
      ["''", "f(a) AS b", "`(`", "a = \"", "b = ('\"')", "g(')')", "``"] := by
    decide +kernel
  have hclosed : r.IsClosed ['`'] := by
    intro _ table ht
    obtain rfl : "''s" = table := Option.some.inj ht
    rw [htexts]
    simp only [List.forall_mem_cons]
    refine ⟨?_, ?_, ?_, ?_, ?_, ?_, ?_, nofun⟩
    all_goals repeat (first
      | exact .nil
      | refine .other (by decide) ?_
      | refine .opening ?_
      | refine .closing ?_
      | refine .quoted (by decide) rfl ?_)
  obtain ⟨result, hresult⟩ :
      ∃ result, compileDescriptor .builtin true r (.text "mysql") parse = .ok result := ⟨_, rfl⟩
  have hrun : IsCheckedRun .builtin parse r "mysql" result := .descriptor hresult
  have hvalid := (check_of_closed_texts .builtin parse).1 .mysql (by simp) rfl r hclosed result hrun
    fun g _ => Lexical.rejectsOpen (fun _ => ['`']) g _
  exact ⟨r, parse, result, rfl, rfl, rfl, rfl, rfl, rfl, hrun, hvalid⟩

end Pipeline

end RequestSql
