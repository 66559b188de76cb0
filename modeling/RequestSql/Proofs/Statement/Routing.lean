import RequestSql.Proofs.Fields
import RequestSql.Proofs.Statement.Clauses
import RequestSql.Request.Read

/-!
# Routing keys in filters

The filter of a reading leaves the routing keys out, whether they came with the path or with the
query. The filter of an update or a deletion does not: it tests all path parameters as they are, so
a routing key among them is tested like a column, and it alone is enough to bound a write.
-/

namespace RequestSql

namespace Statement

variable {d : Dialect} {r : Descriptor} {s : Statement} {table : String} {m : Method}

theorem mem_keys_readParams {key : String} : key ∈ (readParams r).keys ↔
    (key ∈ r.pathParams.keys ∨ key ∈ r.queryParams.keys) ∧ key ∉ routingKeys := by
  rw [readParams, Fields.mem_keys_foldl_erase, Fields.mem_keys_merge]

/-- A routing key is tested exactly where it is a path parameter of an update or a deletion. -/
theorem routing_mem_filterParams {key : String} (hkey : key ∈ routingKeys) :
    key ∈ (filterParams r m).keys ↔ m.isBounded = true ∧ key ∈ r.pathParams.keys := by
  cases m with
  | get =>
    have hno : key ∉ (readParams r).keys := fun hmem => (mem_keys_readParams.mp hmem).2 hkey
    exact ⟨fun hmem => absurd hmem hno, fun h => absurd h.1 (by decide)⟩
  | post => exact ⟨fun hmem => absurd hmem List.not_mem_nil, fun h => absurd h.1 (by decide)⟩
  | put | patch | delete => exact ⟨fun hmem => ⟨rfl, hmem⟩, fun h => h.2⟩

/-- A write that lacks nothing else is refused exactly where there is no path parameter. -/
theorem compile_bounded (ht : r.table = some table) (hne : table ≠ "") (hm : r.method = m.text)
    (hbounded : m.isBounded = true) (hbody : m = .delete ∨ r.body.isEmpty = false) :
    compile d r = if r.pathParams.isEmpty then .error (.refused (.missingIdentifier r.method))
      else built d r table m := by
  have hgiven : (m.takesBody && r.body.isEmpty) = false := by
    rcases hbody with rfl | hbody
    · rfl
    · rw [hbody, Bool.and_false]
  rw [compile_of_method ht hne hm, hgiven, hbounded, Bool.true_and]
  rfl

theorem built_isBounded (d : Dialect) (r : Descriptor) (table : String)
    (hbounded : m.isBounded = true) : ∃ s, built d r table m = .ok s := by
  cases m with
  | get | post => exact absurd hbounded (by decide)
  | put | patch | delete => exact ⟨_, rfl⟩

/-- The law that routing keys only route: no statement tests one, and a write with no other path
parameter is refused. -/
structure IgnoresRouting (d : Dialect) (r : Descriptor) : Prop where
  untested : ∀ (s : Statement) (m : Method), compile d r = .ok s → r.method = m.text →
    ∀ key ∈ routingKeys, key ∉ (filterParams r m).keys
  refused : ∀ (table : String) (m : Method), r.table = some table → table ≠ "" → r.method = m.text →
    m.isBounded = true → (m = .delete ∨ r.body.isEmpty = false) →
    (∀ key ∈ r.pathParams.keys, key ∈ routingKeys) →
    compile d r = .error (.refused (.missingIdentifier r.method))

theorem ignoresRouting_of_absent (h : ∀ (s : Statement) (m : Method), compile d r = .ok s →
    r.method = m.text → m.isBounded = true → ∀ key ∈ routingKeys, key ∉ r.pathParams.keys) :
    IgnoresRouting d r where
  untested := by
    intro s m hs hm key hkey hmem
    obtain ⟨hbounded, hpath⟩ := (routing_mem_filterParams hkey).mp hmem
    exact h s m hs hm hbounded key hkey hpath
  refused := by
    intro table m ht hne hm hbounded hbody honly
    rw [compile_bounded ht hne hm hbounded hbody]
    by_cases hparams : r.pathParams.isEmpty
    · rw [if_pos hparams]
    · obtain ⟨s, hs⟩ := built_isBounded d r table hbounded
      have hcompile : compile d r = .ok s := by
        rw [compile_bounded ht hne hm hbounded hbody, if_neg hparams, hs]
      have hne : r.pathParams.entries ≠ [] := fun hnil => hparams (List.isEmpty_iff.mpr hnil)
      obtain ⟨e, es, he⟩ := List.exists_cons_of_ne_nil hne
      have hmem : e.1 ∈ r.pathParams.keys := by
        rw [Fields.keys, he]
        exact List.mem_cons_self
      exact absurd hmem (h s m hcompile hm hbounded e.1 (honly e.1 hmem))

/-- What the filter of a statement has to do with routing keys. The law holds of a descriptor unless
it compiles to an update or a deletion with a routing key among its path parameters. -/
theorem routing_keys_in_filters (d : Dialect) (r : Descriptor) :
    (∀ s, compile d r = .ok s → ∃ table m ordering, r.table = some table ∧ r.method = m.text ∧
      s.sql = assemble (head d r table m ++ filterClause d r table m :: tail ordering m) ∧
      ∀ key ∈ routingKeys,
        (key ∈ (filterParams r m).keys ↔ m.isBounded = true ∧ key ∈ r.pathParams.keys)) ∧
    (IgnoresRouting d r ↔ ∀ (s : Statement) (m : Method), compile d r = .ok s →
      r.method = m.text → m.isBounded = true → ∀ key ∈ routingKeys, key ∉ r.pathParams.keys) := by
  refine ⟨fun s hs => ?_, fun hlaw s m hs hm hbounded key hkey hpath => ?_, ignoresRouting_of_absent⟩
  · obtain ⟨table, m, ordering, ht, hm, hsql⟩ := sql_of_compile hs
    exact ⟨table, m, ordering, ht, hm, hsql, fun key hkey => routing_mem_filterParams hkey⟩
  · have hmem := (routing_mem_filterParams hkey).mpr ⟨hbounded, hpath⟩
    exact hlaw.untested s m hs hm key hkey hmem

/-- A deletion that names its table only for routing clears the rows whose column `table` has that
name. -/
theorem routing_key_bounds_deletion :
    ∃ r s, Descriptor.read (.map [(.text "method", .text "DELETE"),
        (.text "params", .map [(.text "table", .text "employees")])]) = .ok r ∧
      r.pathParams.keys = ["table"] ∧ compile .mysql r = .ok s ∧
      s.sql = "UPDATE `employees`\nSET `is_active` = 0\nWHERE `table` = 'employees';" ∧
      ¬ IgnoresRouting .mysql r := by
  obtain ⟨r, hr⟩ : ∃ r, Descriptor.read (.map [(.text "method", .text "DELETE"),
      (.text "params", .map [(.text "table", .text "employees")])]) = .ok r := ⟨_, rfl⟩
  obtain rfl := Reading.ok.inj hr
  refine ⟨_, _, rfl, rfl, rfl, rfl, fun hlaw => ?_⟩
  exact hlaw.untested _ .delete rfl rfl "table" (by decide) (by decide)

/-- Every update and every deletion that finds its table in the path parameters tests it there. -/
theorem table_tested_by_routed_write {q : Request} (hq : Request.nonempty q.table = none)
    (h : compile d (.ofRequest q) = .ok s) (hbounded : m.isBounded = true) :
    "table" ∈ (filterParams (.ofRequest q) m).keys := by
  obtain ⟨table, -, ht, -, -, -, -, -⟩ := compile_eq_ok h
  have hresolved : q.resolvedTable = some table := ht
  rw [Request.resolvedTable, hq] at hresolved
  have hpath : "table" ∈ q.params.keys := by
    cases hv : q.params.get? "table" with
    | none =>
      rw [hv] at hresolved
      cases hresolved
    | some v => exact Fields.mem_keys_of_get? hv
  refine (routing_mem_filterParams (by decide)).mpr ⟨hbounded, ?_⟩
  change "table" ∈ (scalarParams q.params).keys
  rw [scalarParams, Fields.keys_map]
  exact hpath

end Statement

end RequestSql
