import Mathlib.Data.List.Perm.Basic
import RequestSql.Dialect.Registry
import RequestSql.Proofs.Fields

/-!
# Registries as maps

A registry keeps the order in which its names were first registered, but what it tells does not
depend on that order. A dialect is in it exactly if its name finds it, and registries in which every
name finds the same tell the same names in the same strict order.
-/

namespace RequestSql.Registry

variable {r s : Registry} {d : Dialect} {name : String}

theorem name_of_get? (h : r.get? name = some d) : d.name = name :=
  r.named (name, d) (Fields.get?_eq_some_iff.mp h)

theorem get?_eq_some_iff : r.get? name = some d ↔ d ∈ r.dialects ∧ d.name = name := by
  constructor
  · intro h
    exact ⟨List.mem_map.mpr ⟨(name, d), Fields.get?_eq_some_iff.mp h, rfl⟩, name_of_get? h⟩
  · rintro ⟨hd, rfl⟩
    obtain ⟨e, he, rfl⟩ := List.mem_map.mp hd
    refine Fields.get?_eq_some_iff.mpr ?_
    rwa [r.named e he]

theorem mem_available_iff : name ∈ r.available ↔ ∃ d, r.get? name = some d :=
  List.mem_mergeSort.trans Fields.mem_keys_iff

theorem nodup_available (r : Registry) : r.available.Nodup :=
  (List.mergeSort_perm _ _).nodup_iff.mpr r.byName.nodup

/-- The names are told in strict order. -/
theorem sorted_available (r : Registry) : r.available.Pairwise (· < ·) := by
  have hsorted : r.available.Pairwise fun a b => decide (a ≤ b) = true := by
    refine List.pairwise_mergeSort (fun a b c hab hbc => ?_) (fun a b => ?_) r.byName.keys
    · exact decide_eq_true (String.le_trans (of_decide_eq_true hab) (of_decide_eq_true hbc))
    · rw [Bool.or_eq_true, decide_eq_true_iff, decide_eq_true_iff]
      exact String.le_total a b
  refine (hsorted.and r.nodup_available).imp ?_
  rintro a b ⟨hle, hne⟩
  exact Std.lt_of_le_of_ne (of_decide_eq_true hle) hne

/-- What is told of the names depends on what they find and not on the order of registration. -/
theorem available_congr (h : ∀ name, r.get? name = s.get? name) : r.available = s.available := by
  have hmem : ∀ name, name ∈ r.available ↔ name ∈ s.available := by
    intro name
    rw [mem_available_iff, mem_available_iff, h]
  have hperm : r.available.Perm s.available :=
    (List.perm_ext_iff_of_nodup r.nodup_available s.nodup_available).mpr hmem
  exact hperm.eq_of_pairwise
    (fun a b _ _ hab hba => absurd (String.lt_trans hab hba) (String.lt_irrefl _))
    r.sorted_available s.sorted_available

theorem find_congr (h : ∀ name, r.get? name = s.get? name) (name : Value) :
    r.find name = s.find name := by
  simp only [find, h, available_congr h]

theorem find_of_get? (h : r.get? name = some d) : r.find (.text name) = .ok d := by
  rw [find, h]
  rfl

theorem find_of_none (h : r.get? name = none) :
    r.find (.text name) = .error (.unsupported (.text name) r.available) := by
  rw [find, h]
  rfl

/-- Of the dialects of one name there is one at most, so the first is the last. -/
theorem get?_eq_getLast? (r : Registry) (name : String) :
    r.get? name = (r.dialects.filter (·.name == name)).getLast? := by
  cases h : (r.dialects.filter (·.name == name)).getLast? with
  | none =>
    have hnone := List.filter_eq_nil_iff.mp (List.getLast?_eq_none_iff.mp h)
    refine Option.eq_none_iff_forall_ne_some.mpr fun d hd => ?_
    obtain ⟨hmem, hname⟩ := get?_eq_some_iff.mp hd
    exact hnone d hmem (beq_iff_eq.mpr hname)
  | some d =>
    obtain ⟨hd, hname⟩ := List.mem_filter.mp (List.mem_of_getLast? h)
    exact get?_eq_some_iff.mpr ⟨hd, eq_of_beq hname⟩

theorem get?_register (r : Registry) (d : Dialect) (name : String) :
    (r.register d).get? name = if d.name = name then some d else r.get? name :=
  Fields.get?_insert r.byName d.name d name

end RequestSql.Registry
