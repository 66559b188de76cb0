import Mathlib.Data.List.Forall2
import RequestSql.Proofs.Request.Grammar
import RequestSql.Proofs.Statement.Metadata

/-!
# Orderings that name nothing

An ordering is left out where its field is missing, null, the empty text or the empty list. Whether
it is one of these is asked of the value as it was sent. A value that is read as an empty text or as
a list with nothing to order by, but is not itself the empty text or the empty list, becomes an
ordering all the same, and the keywords of its clause stand before nothing. The values for which
this happens are told here, of values of any kind and not only of those of JSON.
-/

namespace RequestSql

namespace Value

/-- The value is read as the text: it is the text, or the bytes of it. -/
inductive Spells : Value → String → Prop
  | text (s : String) : Spells (.text s) s
  | bytes {bs : List UInt8} {s : String} (h : Reading.textOfBytes? bs = some s) :
      Spells (.bytes bs) s

/-- The value is a list or a tuple, and its items are read as the texts. -/
structure SpellsAll (v : Value) (items : List Value) (ss : List String) : Prop where
  items_eq : Reading.items? v = some items
  spells : List.Forall₂ Spells items ss

/-- What ordering a value is read as. -/
inductive AsksFor : Value → OrderRequest → Prop
  | text {v : Value} {s : String} (h : v.Spells s) : AsksFor v (.text s)
  | list {v : Value} {items : List Value} {ss : List String} (h : v.SpellsAll items ss) :
      AsksFor v (.list ss)
  | column {v : Value} {name direction : Option String} (h : v.IsMap) :
      AsksFor v (.column name direction)

/-- The empty text, or no bytes. -/
inductive IsBlank : Value → Prop
  | text : IsBlank (.text "")
  | bytes : IsBlank (.bytes [])

/-- No bytes, a tuple without items, or a list or tuple with an item that is empty. The empty text
and the empty list are not among these. -/
inductive IsHollow : Value → Prop
  | bytes : IsHollow (.bytes [])
  | tuple : IsHollow (.tuple [])
  | item {v w : Value} {items : List Value} (hitems : Reading.items? v = some items)
      (hw : w ∈ items) (hblank : w.IsBlank) : IsHollow v

theorem toByteArray_of_textOfBytes? {bs : List UInt8} {s : String}
    (h : Reading.textOfBytes? bs = some s) : s.toByteArray = ⟨bs.toArray⟩ := by
  rw [Reading.textOfBytes?, String.fromUTF8?] at h
  split at h
  · rw [← Option.some.inj h]
    rfl
  · cases h

theorem Spells.eq_empty_iff {v : Value} {s : String} (h : v.Spells s) : s = "" ↔ v.IsBlank := by
  cases h with
  | text s =>
    constructor
    · rintro rfl
      exact .text
    · rintro ⟨⟩
      rfl
  | @bytes bs s hbs =>
    constructor
    · rintro rfl
      have hdata := congrArg (fun b => b.data.toList) (toByteArray_of_textOfBytes? hbs)
      obtain rfl : [] = bs := hdata
      exact .bytes
    · rintro ⟨⟩
      have hempty : Reading.textOfBytes? [] = some "" := by decide +kernel
      exact Option.some.inj (hbs.symm.trans hempty)

theorem isHollow_of_no_items {v : Value} (h : Reading.items? v = none) :
    v.IsHollow ↔ v = .bytes [] := by
  constructor
  · rintro (_ | _ | ⟨hitems, -, -⟩)
    · rfl
    · cases h
    · cases h.symm.trans hitems
  · rintro rfl
    exact .bytes

theorem isHollow_of_items {v : Value} {items : List Value} (h : Reading.items? v = some items) :
    v.IsHollow ↔ v = .tuple [] ∨ ∃ w ∈ items, w.IsBlank := by
  constructor
  · rintro (_ | _ | ⟨hitems, hw, hblank⟩)
    · cases h
    · exact .inl rfl
    · obtain rfl := Option.some.inj (h.symm.trans hitems)
      exact .inr ⟨_, hw, hblank⟩
  · rintro (rfl | ⟨w, hw, hblank⟩)
    · exact .tuple
    · exact .item h hw hblank

/-- One of the texts is empty exactly if one of the items is. -/
theorem SpellsAll.exists_empty_iff {v : Value} {items : List Value} {ss : List String}
    (h : v.SpellsAll items ss) : "" ∈ ss ↔ ∃ w ∈ items, w.IsBlank := by
  have hspells := h.spells
  clear h
  induction hspells with
  | nil => simp
  | cons hw _ ih =>
    rw [List.mem_cons, List.exists_mem_cons_iff]
    exact or_congr (eq_comm.trans hw.eq_empty_iff) ih

end Value

open Value

namespace Reading

variable {path : List PathStep} {v : Value}

theorem spells_of_text {s : String} (h : text path v = .ok s) : v.Spells s := by
  unfold text at h
  split at h
  · obtain rfl := Reading.ok.inj h
    exact .text _
  · split at h
    · obtain rfl := Reading.ok.inj h
      exact .bytes ‹_›
    · cases h
  · cases h

theorem spells_of_each {items : List Value} {ss : List String} (i : Nat)
    (h : each (fun i w => text (path ++ [.index i]) w) i items = .ok ss) :
    List.Forall₂ Spells items ss := by
  induction items generalizing i ss with
  | nil =>
    obtain rfl := Reading.ok.inj h
    exact .nil
  | cons w ws ih =>
    obtain ⟨f, rest, hf, hrest, rfl⟩ := ap_eq_ok_iff.mp h
    obtain ⟨g, s, hg, hs, rfl⟩ := ap_eq_ok_iff.mp hf
    obtain rfl := Reading.ok.inj hg
    exact .cons (spells_of_text hs) (ih (i + 1) hrest)

theorem spellsAll_of_texts {ss : List String} (h : texts path v = .ok ss) :
    ∃ items, v.SpellsAll items ss := by
  unfold texts at h
  split at h
  · exact ⟨_, ‹_›, spells_of_each 0 h⟩
  · cases h

end Reading

namespace Request

open Reading

variable {path : List PathStep} {v : Value} {o : Option Value}

theorem asksFor_of_readOrderColumn {order : OrderRequest} (h : readOrderColumn path v = .ok order) :
    v.AsksFor order := by
  cases v with
  | map es =>
    obtain ⟨f, direction, hf, -, rfl⟩ := ap_eq_ok_iff.mp h
    obtain ⟨g, name, hg, -, rfl⟩ := ap_eq_ok_iff.mp hf
    obtain rfl := Reading.ok.inj hg
    exact .column (.map es)
  | _ => cases h

/-- The field of an ordering is one of the four that ask for none, or a value of one of the forms.
-/
theorem asksFor_of_readOrderBy {order : Option OrderRequest} (h : readOrderBy path o = .ok order) :
    order = none ∧ o ∈ [none, some .null, some (.text ""), some (.list [])] ∨
      ∃ w asked, o = some w ∧ order = some asked ∧ w.AsksFor asked ∧
        o ∉ [none, some .null, some (.text ""), some (.list [])] := by
  unfold readOrderBy at h
  split at h
  · obtain rfl := Reading.ok.inj h
    exact .inl ⟨rfl, by simp⟩
  · obtain rfl := Reading.ok.inj h
    exact .inl ⟨rfl, by simp⟩
  · obtain rfl := Reading.ok.inj h
    exact .inl ⟨rfl, by simp⟩
  · obtain rfl := Reading.ok.inj h
    exact .inl ⟨rfl, by simp⟩
  · rename_i w hnull hempty hnil
    obtain ⟨asked, hfirst, rfl⟩ := map_eq_ok h
    have hread := firstOf_eq_ok hfirst
    simp only [List.mem_cons, List.not_mem_nil, or_false] at hread
    refine .inr ⟨w, asked, rfl, rfl, ?_, ?_⟩
    · rcases hread with h | h | h
      · obtain ⟨s, hs, rfl⟩ := map_eq_ok h.symm
        exact .text (spells_of_text hs)
      · obtain ⟨ss, hss, rfl⟩ := map_eq_ok h.symm
        obtain ⟨items, hitems⟩ := spellsAll_of_texts hss
        exact .list hitems
      · exact asksFor_of_readOrderColumn h.symm
    · simp only [List.mem_cons, List.not_mem_nil, or_false, Option.some.injEq, not_or]
      exact ⟨nofun, hnull, hempty, hnil⟩

end Request

/-- The expressions that the clause of an ordering consists of. -/
def OrderBy.expressions (d : Dialect) : OrderBy → List String
  | .text e => [e]
  | .list es => es
  | .column name direction => [d.identifier name ++ " " ++ direction.text]
  | .unknown _ => []

/-- Something stands behind the keywords of the clause, and no expression is empty. -/
structure OrderBy.IsNamed (d : Dialect) (o : OrderBy) : Prop where
  text_ne : ", ".intercalate (o.expressions d) ≠ ""
  expression_ne : ∀ e ∈ o.expressions d, e ≠ ""

theorem OrderBy.isNamed_iff {d : Dialect} {o : OrderBy} :
    o.IsNamed d ↔ o.expressions d ≠ [] ∧ "" ∉ o.expressions d := by
  constructor
  · intro h
    refine ⟨fun hnil => h.text_ne ?_, fun hempty => h.expression_ne "" hempty rfl⟩
    rw [hnil]
    rfl
  · rintro ⟨hne, hnot⟩
    refine ⟨fun htext => ?_, fun e he hempty => hnot (hempty ▸ he)⟩
    obtain ⟨e, es, hes⟩ := List.exists_cons_of_ne_nil hne
    rw [hes] at htext hnot
    cases es with
    | nil => exact hnot (List.mem_singleton.mpr htext.symm)
    | cons e' es =>
      have hlist := congrArg String.toList htext
      simp at hlist

/-- A value that is not left out is read as an ordering that names something, unless it is hollow.
-/
theorem OrderBy.isNamed_ofRequest {d : Dialect} {w : Value} {asked : OrderRequest}
    (h : w.AsksFor asked) (hempty : w ≠ .text "") (hnil : w ≠ .list []) :
    (OrderBy.ofRequest asked).IsNamed d ↔ ¬ w.IsHollow := by
  rw [OrderBy.isNamed_iff]
  cases h with
  | @text s h =>
    have hitems : Reading.items? w = none := by cases h <;> rfl
    have hblank : w.IsBlank ↔ w = .bytes [] := by
      constructor
      · rintro (_ | _)
        · exact absurd rfl hempty
        · rfl
      · rintro rfl
        exact .bytes
    rw [isHollow_of_no_items hitems, ← hblank, ← h.eq_empty_iff]
    simp [OrderBy.ofRequest, OrderBy.expressions, eq_comm]
  | @list items ss h =>
    have hnone : ss = [] ↔ w = .tuple [] := by
      rw [← List.length_eq_zero_iff, ← h.spells.length_eq, List.length_eq_zero_iff]
      constructor
      · rintro rfl
        cases w with
        | tuple items => exact congrArg Value.tuple (Option.some.inj h.items_eq)
        | list items => exact absurd (congrArg Value.list (Option.some.inj h.items_eq)) hnil
        | _ => cases h.items_eq
      · rintro rfl
        exact (Option.some.inj h.items_eq).symm
    rw [isHollow_of_items h.items_eq, ← hnone, ← h.exists_empty_iff, not_or]
    rfl
  | column h =>
    obtain ⟨es⟩ := h
    rw [isHollow_of_no_items rfl]
    refine iff_of_true ⟨List.cons_ne_nil _ _, fun hmem => ?_⟩ nofun
    have hlist := congrArg String.toList (List.mem_singleton.mp hmem)
    simp at hlist

namespace Statement

variable {d : Dialect} {r : Descriptor} {s : Statement} {v : Value}

def hasOrderBy (s : Statement) : Bool :=
  match s.metadata with
  | .select _ _ _ _ hasOrderBy => hasOrderBy
  | _ => false

/-- The clause of an ordering: the keywords before the expressions, or no clause. -/
def orderClause (d : Dialect) : Option OrderBy → String
  | none => ""
  | some o => "ORDER BY " ++ ", ".intercalate (o.expressions d)

/-- The text of a reading ends with the clause of its ordering, and its metadata say whether there
is one. -/
structure IsOrderedReading (d : Dialect) (r : Descriptor) (s : Statement) : Prop where
  sql_eq : s.sql = assemble (head d r s.table .get ++
    [filterClause d r s.table .get, orderClause d r.orderBy])
  flag_iff : s.hasOrderBy = true ↔ r.orderBy ≠ none

theorem ordering_eq_orderClause {o : Option OrderBy} {clause : String}
    (h : Clause.ordering d o = .ok clause) : clause = orderClause d o := by
  match o, h with
  | none, h => exact (Except.ok.inj h).symm
  | some (.text e), h => exact (Except.ok.inj h).symm
  | some (.list es), h => exact (Except.ok.inj h).symm
  | some (.column name direction), h =>
    obtain rfl := Except.ok.inj h
    change _ = "ORDER BY " ++ (d.identifier name ++ " " ++ direction.text)
    rw [String.append_assoc, String.append_assoc, String.append_assoc]
  | some (.unknown v), h => cases h

theorem isOrderedReading_of_compile (h : compile d r = .ok s) (hselect : s.operation = .select) :
    s.IsOrderedReading d r := by
  obtain ⟨table, m, -, -, -, -, -, hs⟩ := compile_eq_ok h
  cases m with
  | get =>
    obtain ⟨clause, ho, rfl⟩ := select_eq_ok hs
    have hempty := Clause.ordering_eq_empty_iff ho
    obtain rfl := ordering_eq_orderClause ho
    exact ⟨rfl, decide_eq_true_iff.trans (not_congr hempty)⟩
  | post | put | patch =>
    obtain rfl := Except.ok.inj hs
    cases hselect
  | delete =>
    obtain rfl := Except.ok.inj hs
    cases hsoft : r.softDelete <;> simp [deleted, hsoft] at hselect

/-- A reading is ordered, and flagged so, unless the field of its ordering is missing, null, the
empty text or the empty list. Its ordering names something exactly if that field does not hold one
of the other values that are read as empty. -/
theorem named_ordering_iff (hread : Descriptor.read v = .ok r) (h : compile d r = .ok s)
    (hselect : s.operation = .select) :
    s.IsOrderedReading d r ∧
      (r.orderBy = none ↔ v.orderField ∈ [none, some .null, some (.text ""), some (.list [])]) ∧
      ((∀ o, r.orderBy = some o → o.IsNamed d) ↔
        ∀ w, v.orderField = some w → ¬ w.IsHollow) := by
  refine ⟨isOrderedReading_of_compile h hselect, ?_⟩
  obtain ⟨q, hq, -, rfl⟩ := Descriptor.read_eq_ok hread
  obtain ⟨path, horder⟩ := (Request.isReadFrom_of_read hq).orderBy
  have horder : Request.readOrderBy path v.orderField = .ok q.orderBy := horder
  change (q.orderBy.map OrderBy.ofRequest = none ↔ _) ∧
    ((∀ o, q.orderBy.map OrderBy.ofRequest = some o → _) ↔ _)
  rcases Request.asksFor_of_readOrderBy horder with
    ⟨hnone, hfield⟩ | ⟨w, asked, hfield, hasked, hform, hne⟩
  · rw [hnone]
    refine ⟨iff_of_true rfl hfield, iff_of_true nofun fun w hw => ?_⟩
    rw [hw] at hfield
    simp only [List.mem_cons, List.not_mem_nil, or_false, Option.some.injEq, reduceCtorEq,
      false_or] at hfield
    rcases hfield with rfl | rfl | rfl
    · simp [isHollow_of_no_items (v := .null) rfl]
    · simp [isHollow_of_no_items (v := .text "") rfl]
    · simp [isHollow_of_items (v := .list []) rfl]
  · rw [hasked]
    refine ⟨iff_of_false nofun hne, ?_⟩
    rw [hfield] at hne ⊢
    simp only [List.mem_cons, List.not_mem_nil, or_false, Option.some.injEq, not_or] at hne
    obtain ⟨-, -, hempty, hnil⟩ := hne
    simp only [Option.map_some, Option.some.injEq, forall_eq']
    exact OrderBy.isNamed_ofRequest hform hempty hnil

/-- A tuple of which one item came as bytes. -/
theorem named_ordering_of_tuple :
    ∃ v r s, v = .map [(.text "table", .text "employees"),
        (.text "order_by", .tuple [.bytes [105, 100], .text "name DESC"])] ∧
      Descriptor.read v = .ok r ∧ compile .mysql r = .ok s ∧ s.operation = .select ∧
      s.sql = "SELECT em.*\nFROM `employees` em\nORDER BY id, name DESC;" ∧
      s.IsOrderedReading .mysql r ∧ (∀ o, r.orderBy = some o → o.IsNamed .mysql) ∧
      ∀ w, v.orderField = some w → ¬ w.IsHollow := by
  let v : Value := .map [(.text "table", .text "employees"),
    (.text "order_by", .tuple [.bytes [105, 100], .text "name DESC"])]
  let r : Descriptor := {
    method := "GET"
    table := some "employees"
    orderBy := some (.list ["id", "name DESC"])
    inputKeys := ["table", "order_by"] }
  have hread : Descriptor.read v = .ok r := rfl
  obtain ⟨s, hs⟩ : ∃ s, compile .mysql r = .ok s := ⟨_, rfl⟩
  have hselect : s.operation = .select := by rw [← Except.ok.inj hs]
  obtain ⟨hordered, -, hnamed⟩ := named_ordering_iff hread hs hselect
  have hexpressions : ∀ o, r.orderBy = some o → o.IsNamed .mysql := by
    rintro o ⟨⟩
    exact OrderBy.isNamed_iff.mpr ⟨List.cons_ne_nil _ _, by decide⟩
  refine ⟨v, r, s, rfl, hread, hs, hselect, ?_, hordered, hexpressions, hnamed.mp hexpressions⟩
  rw [← Except.ok.inj hs]
  decide +kernel

/-- Three values that are read as empty. The ordering is flagged, and its keywords are the last
words of the statement. -/
theorem empty_orderings_dangle :
    ∃ ws : List Value, ws = [.tuple [], .bytes [], .list [.text ""]] ∧ ∀ w ∈ ws, ∃ r s o,
      Descriptor.read (.map [(.text "table", .text "employees"), (.text "orderBy", w)]) = .ok r ∧
        compile .mysql r = .ok s ∧ s.operation = .select ∧
        s.sql = "SELECT em.*\nFROM `employees` em\nORDER BY ;" ∧ s.hasOrderBy = true ∧
        r.orderBy = some o ∧ ¬ o.IsNamed .mysql := by
  have hdangle (o : OrderBy) (h : ", ".intercalate (o.expressions .mysql) = "") :
      ¬ o.IsNamed .mysql := fun hnamed => hnamed.text_ne h
  refine ⟨_, rfl, ?_⟩
  simp only [List.forall_mem_cons, List.not_mem_nil, false_imp_iff, forall_const, and_true]
  refine ⟨?tuple, ?bytes, ?item⟩
  case tuple =>
    exact ⟨_, _, .list [], rfl, rfl, rfl, by decide +kernel, rfl, rfl, hdangle _ rfl⟩
  case bytes =>
    exact ⟨_, _, .text "", rfl, rfl, rfl, by decide +kernel, rfl, rfl, hdangle _ rfl⟩
  case item =>
    exact ⟨_, _, .list [""], rfl, rfl, rfl, by decide +kernel, rfl, rfl, hdangle _ rfl⟩

end Statement

end RequestSql
