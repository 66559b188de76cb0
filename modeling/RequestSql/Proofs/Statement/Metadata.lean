import RequestSql.Proofs.Fields
import RequestSql.Proofs.Statement.Clauses

/-!
# Metadata and the statement they describe

Metadata are made on paths of their own: parameters come back from scalars as plain values, and
flags are read off the text of clauses. They agree with the statement all the same, under every
dialect. The filter of the statement is that of the plain parameters filed again, flags say what the
descriptor holds, and names and numbers of fields are those of the body.
-/

namespace RequestSql

/-- Plain parameters, filed again as scalars. -/
def filed (params : Fields Value) : List (String × Scalar) :=
  (params.map Scalar.ofValue).entries

/-- No parameter is a truth value that was declared to be a number. -/
structure Descriptor.HasPlainParams (r : Descriptor) : Prop where
  path : ∀ e ∈ r.pathParams.entries, e.2.IsPlain
  query : ∀ e ∈ r.queryParams.entries, e.2.IsPlain

theorem filed_plainParams {params : Fields Scalar} (h : ∀ e ∈ params.entries, e.2.IsPlain) :
    filed (plainParams params) = params.entries := by
  change (params.entries.map _).map _ = _
  rw [List.map_map]
  refine (List.map_congr_left fun e he => ?_).trans (List.map_id _)
  exact Prod.ext rfl (Scalar.ofValue_toValue (h e he))

namespace Clause

theorem ordering_eq_empty_iff {d : Dialect} {o : Option OrderBy} {ordering : String}
    (h : Clause.ordering d o = .ok ordering) : ordering = "" ↔ o = none := by
  cases o with
  | none =>
    obtain rfl := Except.ok.inj h
    exact ⟨fun _ => rfl, fun _ => rfl⟩
  | some o =>
    refine ⟨fun hempty => ?_, nofun⟩
    have hlist := congrArg String.toList hempty
    cases o with
    | text e =>
      obtain rfl := Except.ok.inj h
      simp at hlist
    | list es =>
      obtain rfl := Except.ok.inj h
      simp at hlist
    | column name direction =>
      obtain rfl := Except.ok.inj h
      simp at hlist
    | unknown v => cases h

theorem joins_eq_empty_iff {d : Dialect} {js : List Join} : Clause.joins d js = "" ↔ js = [] := by
  cases js with
  | nil => exact ⟨fun _ => rfl, fun _ => rfl⟩
  | cons j js =>
    refine ⟨fun h => ?_, nofun⟩
    have hline := Statement.line_joins (d := d) (j :: js)
    rw [h, Statement.line_empty] at hline
    cases hline

end Clause

namespace Statement

variable {d : Dialect} {r : Descriptor} {s : Statement} {table : String}

/-- The path parameters in their order, each with the value of the query if the query has one, then
what else the query has. Routing keys are left out. -/
def mergedParams (r : Descriptor) : List (String × Scalar) :=
  (r.pathParams.entries.map (fun e => (e.1, (r.queryParams.get? e.1).getD e.2)) ++
    r.queryParams.entries.filter fun e => e.1 ∉ r.pathParams.keys).filter
      fun e => e.1 ≠ "table" ∧ e.1 ≠ "lookup_type"

theorem entries_readParams (r : Descriptor) : (readParams r).entries = mergedParams r := by
  rw [readParams, Fields.entries_foldl_erase, Fields.entries_merge, mergedParams]
  refine List.filter_congr fun e _ => ?_
  simp [routingKeys]

theorem forall_readParams {p : Scalar → Prop} (hpath : ∀ e ∈ r.pathParams.entries, p e.2)
    (hquery : ∀ e ∈ r.queryParams.entries, p e.2) : ∀ e ∈ (readParams r).entries, p e.2 := by
  intro e he
  rw [readParams, Fields.entries_foldl_erase] at he
  rcases Fields.mem_entries_merge (List.mem_filter.mp he).1 with he | he
  · exact hpath e he
  · exact hquery e he

/-- Line by line, the statement is its first clause and a line for each further clause that is not
empty, with a semicolon at the end. The filter among them is that of the plain parameters, and it
has a line of its own exactly where there are any. -/
structure IsFilteredBy (d : Dialect) (r : Descriptor) (s : Statement) (m : Method)
    (qualifier : Option String) (params : Fields Value) : Prop where
  sql_eq : ∃ first rest ordering, head d r s.table m = first :: rest ∧
    (m = .get → Clause.ordering d r.orderBy = .ok ordering) ∧
    s.sql.toList = first.toList ++ (rest.flatMap line ++
      (line (Clause.filter d qualifier (filed params)) ++
        ((tail ordering m).flatMap line ++ [';'])))
  no_line : line (Clause.filter d qualifier (filed params)) = [] ↔ params.isEmpty = true

/-- What metadata say of the statement of a descriptor is so. -/
def IsToldBy (d : Dialect) (r : Descriptor) (s : Statement) : Metadata → Prop
  | .select shortName params hasJoins hasWhere hasOrderBy =>
    r.method = "GET" ∧ shortName = tableAlias s.table ∧
      IsFilteredBy d r s .get (some shortName) params ∧
      params.entries = (mergedParams r).map (fun e => (e.1, e.2.toValue)) ∧
      (hasWhere = true ↔ params.isEmpty = false) ∧ (hasOrderBy = true ↔ r.orderBy ≠ none) ∧
      hasJoins = s.trace.hasJoins ∧ (hasJoins = true ↔ r.joins ≠ [])
  | .insert columns count =>
    r.method = "POST" ∧ columns = r.body.keys ∧ s.trace.bodyKeys = r.body.keys ∧
      ∃ literals : List String, literals = r.body.values.map d.literal ∧
        literals.length = count ∧ s.sql = "INSERT INTO " ++ d.identifier s.table ++
          " (" ++ ", ".intercalate (columns.map d.identifier) ++
          ")\nVALUES (" ++ ", ".intercalate literals ++ ");"
  | .update fields params =>
    (r.method = "PUT" ∨ r.method = "PATCH") ∧ fields = r.body.keys ∧
      s.trace.bodyKeys = r.body.keys ∧ params = plainParams r.pathParams ∧
      IsFilteredBy d r s .put none params
  | .delete soft params =>
    r.method = "DELETE" ∧ (soft = false ↔ s.operation = .delete) ∧
      params = plainParams r.pathParams ∧ IsFilteredBy d r s .delete none params

theorem isFilteredBy_of_sql {m : Method} {qualifier : Option String} {params : Fields Scalar}
    (ordering : String) (hplain : ∀ e ∈ params.entries, e.2.IsPlain)
    (ho : m = .get → Clause.ordering d r.orderBy = .ok ordering)
    (hsql : s.sql = assemble (head d r s.table m ++
      Clause.filter d qualifier params.entries :: tail ordering m)) :
    IsFilteredBy d r s m qualifier (plainParams params) where
  sql_eq := by
    obtain ⟨first, rest, hhead, hfirst⟩ := head_eq_cons d r s.table m
    refine ⟨first, rest, ordering, hhead, ho, ?_⟩
    rw [filed_plainParams hplain, hsql, hhead, List.cons_append, toList_assemble hfirst,
      List.flatMap_append, List.flatMap_cons, List.append_assoc, List.append_assoc]
  no_line := by
    have hfilter : Clause.filter d qualifier params.entries = "" ↔ params.entries = [] :=
      Clause.filter_eq_empty_iff
    rw [filed_plainParams hplain, plainParams, Fields.isEmpty_map, Fields.isEmpty,
      List.isEmpty_iff, ← hfilter, line]
    split
    · exact iff_of_true rfl ‹_›
    · exact iff_of_false (List.cons_ne_nil _ _) ‹_›

theorem isToldBy_selected (h : r.HasPlainParams) (hm : r.method = "GET") {ordering : String}
    (ho : Clause.ordering d r.orderBy = .ok ordering) :
    IsToldBy d r (selected d r table ordering) (selected d r table ordering).metadata := by
  refine ⟨hm, rfl, ?_, ?_, ?_, ?_, ?_, ?_⟩
  · exact isFilteredBy_of_sql ordering (forall_readParams h.path h.query) (fun _ => ho) rfl
  · rw [← entries_readParams]
    rfl
  · rw [decide_eq_true_iff, ne_eq, Clause.filter_eq_empty_iff, plainParams, Fields.isEmpty_map,
      Fields.isEmpty]
    simp
  · rw [decide_eq_true_iff, ne_eq, Clause.ordering_eq_empty_iff ho]
  · rw [Bool.eq_iff_iff, decide_eq_true_iff, ne_eq, Clause.joins_eq_empty_iff]
    simp [selected, traceOf]
  · rw [decide_eq_true_iff, ne_eq, Clause.joins_eq_empty_iff]

/-- Whatever compiles, its metadata tell the truth, under dialects with any quotes and any spelling
of truth values. -/
theorem metadata_of_compile (h : compile d r = .ok s) (hplain : r.HasPlainParams) :
    IsToldBy d r s s.metadata := by
  obtain ⟨table, m, -, -, hm, -, -, hs⟩ := compile_eq_ok h
  cases m with
  | get =>
    obtain ⟨ordering, ho, rfl⟩ := select_eq_ok hs
    exact isToldBy_selected hplain hm ho
  | post =>
    obtain rfl := Except.ok.inj hs
    refine ⟨hm, rfl, rfl, _, rfl, ?_, String.toList_inj.mp ?_⟩
    · rw [List.length_map, Fields.values, List.length_map, Fields.size]
    · rw [toList_inserted]
      simp only [String.toList_append, List.append_assoc]
      rfl
  | put =>
    obtain rfl := Except.ok.inj hs
    exact ⟨.inl hm, rfl, rfl, rfl, isFilteredBy_of_sql "" hplain.path (absurd · (by decide)) rfl⟩
  | patch =>
    obtain rfl := Except.ok.inj hs
    exact ⟨.inr hm, rfl, rfl, rfl, isFilteredBy_of_sql "" hplain.path (absurd · (by decide)) rfl⟩
  | delete =>
    obtain rfl := Except.ok.inj hs
    refine ⟨hm, ?_, rfl, isFilteredBy_of_sql "" hplain.path (absurd · (by decide)) sql_deleted⟩
    cases hsoft : r.softDelete with
    | true => simp [deleted, hsoft]
    | false => simp [deleted, hsoft]

/-- Two path parameters, of which the query overwrites one, a routing key in both, and a dialect
that quotes with a word and spells truth values like strings. -/
theorem metadata_of_overwritten_params :
    ∃ d r s params, d = { name := "own", quote := "aba", trueText := "", falseText := "'" } ∧
      r.method = "GET" ∧
      r.pathParams.entries = [("b", .number (.int 1)), ("table", .text "t"), ("ababa", .bool false)] ∧
      r.queryParams.entries = [("lookup_type", .null), ("z", .null), ("b", .bool true)] ∧
      r.HasPlainParams ∧ compile d r = .ok s ∧ IsToldBy d r s s.metadata ∧
      s.sql = "SELECT em.*\nFROM abaemployeesaba em\nWHERE em.abababa =  AND " ++
        "em.abaabaababaaba = ' AND em.abazaba IS NULL\nORDER BY ;" ∧
      s.metadata = .select "em" params false true true ∧
      params.entries = [("b", .bool true), ("ababa", .bool false), ("z", .null)] := by
  let d : Dialect := { name := "own", quote := "aba", trueText := "", falseText := "'" }
  let r : Descriptor := {
    method := "GET"
    table := some "employees"
    pathParams := .ofList [("b", .number (.int 1)), ("table", .text "t"), ("ababa", .bool false)]
    queryParams := .ofList [("lookup_type", .null), ("z", .null), ("b", .bool true)]
    orderBy := some (.text "") }
  have hpath : r.pathParams.entries =
      [("b", .number (.int 1)), ("table", .text "t"), ("ababa", .bool false)] := rfl
  have hquery : r.queryParams.entries =
      [("lookup_type", .null), ("z", .null), ("b", .bool true)] := rfl
  have hplain : r.HasPlainParams := by
    constructor
    · simp [hpath, Scalar.IsPlain]
    · simp [hquery, Scalar.IsPlain]
  obtain ⟨s, hs⟩ : ∃ s, compile d r = .ok s := ⟨_, rfl⟩
  have htold := metadata_of_compile hs hplain
  obtain rfl := Except.ok.inj hs
  exact ⟨d, r, _, _, rfl, rfl, rfl, rfl, hplain, rfl, htold, by decide +kernel, rfl, rfl⟩

end Statement

end RequestSql
