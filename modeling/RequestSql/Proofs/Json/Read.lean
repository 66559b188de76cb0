import RequestSql.Json.Read
import RequestSql.Proofs.Decimal.Digits
import RequestSql.Proofs.Fields
import RequestSql.Proofs.Value.Json

/-!
# What the reader of JSON reads

Whatever is read from a text is a value of JSON: names are texts and do not repeat. And no integer
of it has more digits than can be written out again. A list and a map are collected item by item,
and what was collected is such a value at every step.
-/

namespace RequestSql

namespace Value

theorem putEntry_record (name : String) (v : Value) (entries : List (String × Value)) :
    putEntry (.text name) v (entries.map fun e => (.text e.1, e.2)) =
      (Fields.putEntry name v entries).map fun e => (.text e.1, e.2) := by
  induction entries with
  | nil => rfl
  | cons e es ih =>
    rw [List.map_cons, putEntry, Fields.putEntry, ih]
    by_cases h : e.1 = name
    · simp [h, sameKey]
    · simp [h, sameKey]

/-- A value of JSON without integers that are too long. -/
structure IsShortJson (v : Value) : Prop where
  json : v.IsJson
  short : v.hasLongInteger = false

theorem isShortJson_list {vs : List Value} (h : ∀ v ∈ vs, v.IsShortJson) :
    (Value.list vs).IsShortJson where
  json := .list fun v hv => (h v hv).json
  short := anyLongInteger_eq_false_iff.mpr fun v hv => (h v hv).short

theorem isShortJson_record {es : List (String × Value)} (hkeys : (es.map Prod.fst).Nodup)
    (h : ∀ e ∈ es, e.2.IsShortJson) : (Value.record es).IsShortJson where
  json := .record hkeys fun e he => (h e he).json
  short := by
    refine anyLongEntry_eq_false_iff.mpr fun e he => ?_
    obtain ⟨e', he', rfl⟩ := List.mem_map.mp he
    exact ⟨rfl, (h e' he').short⟩

theorem isShortJson_putEntry (name : String) {v : Value} {es : List (Value × Value)}
    (hes : (Value.map es).IsShortJson) (hv : v.IsShortJson) :
    (Value.map (putEntry (.text name) v es)).IsShortJson := by
  obtain ⟨hjson, hshort⟩ := hes
  cases hjson with
  | record hkeys hentries =>
    rename_i entries
    rw [putEntry_record]
    refine isShortJson_record (Fields.nodup_putEntry name v hkeys) fun e he => ?_
    rcases Fields.mem_of_mem_putEntry he with rfl | he
    · exact hv
    · have hmem : (Value.text e.1, e.2) ∈ entries.map fun e => (Value.text e.1, e.2) :=
        List.mem_map.mpr ⟨e, he, rfl⟩
      exact ⟨hentries e he, (anyLongEntry_eq_false_iff.mp hshort _ hmem).2⟩

end Value

namespace Json

open Value (IsShortJson isShortJson_list isShortJson_record isShortJson_putEntry)

variable {block : Text.HalfBlock} {cs rest : List Char} {v : Value}

theorem wholeDigits_isDigit (cs : List Char) : ∀ c ∈ (wholeDigits cs).1, c.isDigit = true := by
  unfold wholeDigits
  split
  · simp
  · exact Decimal.spanDigits_isDigit

/-- An integer has at most as many digits as were read for it. -/
theorem isShortJson_int {ds : List Char} (hne : ds ≠ []) (hdigits : ∀ c ∈ ds, c.isDigit = true)
    (hlength : ds.length ≤ Decimal.maxDigits) (negative : Bool) :
    (Value.int (if negative then -(Decimal.ofDigits ds : Int)
      else Decimal.ofDigits ds)).IsShortJson := by
  refine ⟨.int _, decide_eq_false (Nat.not_lt.mpr ?_)⟩
  have habs : (if negative then -(Decimal.ofDigits ds : Int) else Decimal.ofDigits ds).natAbs =
      Decimal.ofDigits ds := by
    split
    · rw [Int.natAbs_neg, Int.natAbs_natCast]
    · rw [Int.natAbs_natCast]
  rw [habs]
  exact Nat.le_trans (Decimal.length_digits_ofDigits hne hdigits) hlength

theorem isShortJson_number (h : number cs = .ok (v, rest)) : v.IsShortJson := by
  unfold number at h
  split at h
  rename_i negative body _
  split at h
  · cases h
  · rename_i whole after hne hwhole
    have hdigits : ∀ c ∈ whole, c.isDigit = true := by
      have hall := wholeDigits_isDigit body
      rwa [hwhole] at hall
    dsimp only at h
    split at h
    · split at h
      · cases h
      · rename_i hlength
        obtain ⟨rfl, -⟩ := Prod.mk.inj (Except.ok.inj h)
        exact isShortJson_int hne hdigits (Nat.not_lt.mp hlength) negative
    · obtain ⟨rfl, -⟩ := Prod.mk.inj (Except.ok.inj h)
      exact ⟨.float _, rfl⟩

theorem isShortJson_atom (h : atom cs = .ok (v, rest)) : v.IsShortJson := by
  unfold atom at h
  split at h
  · rename_i word v' hfind
    obtain ⟨rfl, -⟩ := Prod.mk.inj (Except.ok.inj h)
    have hmem := List.mem_of_find?_eq_some hfind
    simp only [words, List.mem_cons, List.not_mem_nil, or_false, Prod.mk.injEq] at hmem
    rcases hmem with ⟨-, rfl⟩ | ⟨-, rfl⟩ | ⟨-, rfl⟩ | ⟨-, rfl⟩ | ⟨-, rfl⟩ | ⟨-, rfl⟩
    · exact ⟨.null, rfl⟩
    · exact ⟨.bool true, rfl⟩
    · exact ⟨.bool false, rfl⟩
    · exact ⟨.float _, rfl⟩
    · exact ⟨.float _, rfl⟩
    · exact ⟨.float _, rfl⟩
  · exact isShortJson_number h

/-- What the readers give is a value of JSON without long integers, if what was collected before is
one. -/
structure ReadsJson (block : Text.HalfBlock) (bound : Nat) : Prop where
  value {depth : Nat} {cs rest : List Char} {v : Value}
    (h : Json.value block bound depth cs = .ok (v, rest)) : v.IsShortJson
  items {depth : Nat} {found : List Value} {cs rest : List Char} {v : Value}
    (hfound : ∀ w ∈ found, w.IsShortJson)
    (h : Json.items block bound depth found cs = .ok (v, rest)) : v.IsShortJson
  entries {depth : Nat} {found : List (Value × Value)} {cs rest : List Char} {v : Value}
    (hfound : (Value.map found).IsShortJson)
    (h : Json.entries block bound depth found cs = .ok (v, rest)) : v.IsShortJson

theorem isShortJson_empty : (Value.map []).IsShortJson := by
  have hempty : (Value.record []).IsShortJson :=
    isShortJson_record List.nodup_nil (List.forall_mem_nil _)
  exact hempty

theorem readsJson (block : Text.HalfBlock) (bound : Nat) : ReadsJson block bound := by
  -- each reader calls the others with a smaller bound, so the three go through one induction
  induction bound with
  | zero =>
    constructor
    · intro depth cs rest v h
      cases h
    · intro depth found cs rest v _ h
      cases h
    · intro depth found cs rest v _ h
      cases h
  | succ bound ih =>
    constructor
    · intro depth cs rest v h
      unfold Json.value at h
      split at h
      · rename_i after
        cases hs : string block _ [] after with
        | error e =>
          rw [hs] at h
          cases h
        | ok read =>
          rw [hs] at h
          obtain ⟨rfl, -⟩ := Prod.mk.inj (Except.ok.inj h)
          exact ⟨.text _, rfl⟩
      · split at h
        · cases h
        · obtain ⟨rfl, -⟩ := Prod.mk.inj (Except.ok.inj h)
          exact isShortJson_list (List.forall_mem_nil _)
        · exact ih.items (List.forall_mem_nil _) h
      · split at h
        · cases h
        · obtain ⟨rfl, -⟩ := Prod.mk.inj (Except.ok.inj h)
          exact isShortJson_empty
        · exact ih.entries isShortJson_empty h
      · exact isShortJson_atom h
    · intro depth found cs rest v hfound h
      unfold Json.items at h
      split at h
      · cases h
      · rename_i w after hw
        have hnext : ∀ x ∈ w :: found, x.IsShortJson :=
          List.forall_mem_cons.mpr ⟨ih.value hw, hfound⟩
        split at h
        · cases h
        · obtain ⟨rfl, -⟩ := Prod.mk.inj (Except.ok.inj h)
          exact isShortJson_list fun x hx => hnext x (List.mem_reverse.mp hx)
        · exact ih.items hnext h
    · intro depth found cs rest v hfound h
      unfold Json.entries at h
      split at h
      · cases h
      · split at h
        · cases h
        · rename_i name _ _ _ _ _ hw
          have hnext := isShortJson_putEntry name hfound (ih.value hw)
          dsimp only at h
          split at h
          · cases h
          · obtain ⟨rfl, -⟩ := Prod.mk.inj (Except.ok.inj h)
            exact hnext
          · exact ih.entries hnext h

/-- Whatever text is read as a value is read as one of JSON without long integers. -/
theorem isShortJson_read (h : read block cs = .ok v) : v.IsShortJson := by
  unfold read at h
  split at h
  · cases h
  · rename_i w rest hw
    split at h
    · obtain rfl := Except.ok.inj h
      exact (readsJson block _).value hw
    · cases h

end Json

end RequestSql
