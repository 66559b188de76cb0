import RequestSql.Http.Compile
import RequestSql.Proofs.Request.Fault

/-!
# Finite values

A value has only finite numbers when each of its parts has, and then the value without its internal
entries has, too. The number that a parameter is filed as stays finite, so it is told as it is.
-/

namespace RequestSql

namespace Value

theorem anyNonFinite_eq_false_iff {vs : List Value} :
    anyNonFinite vs = false ↔ ∀ v ∈ vs, v.hasNonFinite = false := by
  induction vs with
  | nil => exact iff_of_true rfl nofun
  | cons v vs ih => rw [anyNonFinite, Bool.or_eq_false_iff, ih, List.forall_mem_cons]

theorem anyNonFiniteEntry_eq_false_iff {es : List (Value × Value)} :
    anyNonFiniteEntry es = false ↔ ∀ e ∈ es, e.2.hasNonFinite = false := by
  induction es with
  | nil => exact iff_of_true rfl nofun
  | cons e es ih => rw [anyNonFiniteEntry, Bool.or_eq_false_iff, ih, List.forall_mem_cons]

/-- The parts of a finite value of JSON are finite values of JSON. -/
theorem finite_of_isPart {w v : Value} (h : w.IsPart v) (hv : v.IsJson)
    (hfinite : v.hasNonFinite = false) : w.IsJson ∧ w.hasNonFinite = false := by
  induction h with
  | self => exact ⟨hv, hfinite⟩
  | item hmem _ ih =>
    rw [hasNonFinite, anyNonFinite_eq_false_iff] at hfinite
    cases hv with
    | list hitems => exact ih (hitems _ hmem) (hfinite _ hmem)
  | tupleItem => cases hv
  | key hmem _ ih =>
    -- keys are not searched for numbers, but those of JSON are texts
    cases hv with
    | record hkeys hentries =>
      obtain ⟨e, -, rfl⟩ := List.mem_map.mp hmem
      exact ih (.text e.1) rfl
  | entry hmem _ ih =>
    rw [hasNonFinite, anyNonFiniteEntry_eq_false_iff] at hfinite
    cases hv with
    | record hkeys hentries =>
      obtain ⟨e, he, rfl⟩ := List.mem_map.mp hmem
      exact ih (hentries e he) (hfinite _ hmem)

mutual

theorem hasNonFinite_withoutInternal :
    ∀ {v : Value}, v.hasNonFinite = false → v.withoutInternal.hasNonFinite = false
  | .list _, h => anyNonFinite_withoutInternal h
  | .tuple _, h => anyNonFinite_withoutInternal h
  | .map _, h => anyNonFiniteEntry_withoutInternal h
  | .null, h | .bool _, h | .int _, h | .float _, h | .decimal _, h | .bytes _, h | .text _, h
  | .scalar _, h => h

theorem anyNonFinite_withoutInternal :
    ∀ {vs : List Value}, anyNonFinite vs = false → anyNonFinite (itemsWithoutInternal vs) = false
  | [], h => h
  | v :: vs, h => by
    rw [anyNonFinite, Bool.or_eq_false_iff] at h
    rw [itemsWithoutInternal, anyNonFinite, hasNonFinite_withoutInternal h.1,
      anyNonFinite_withoutInternal h.2]
    rfl

theorem anyNonFiniteEntry_withoutInternal :
    ∀ {es : List (Value × Value)}, anyNonFiniteEntry es = false →
      anyNonFiniteEntry (entriesWithoutInternal es) = false
  | [], h => h
  | (k, v) :: es, h => by
    rw [anyNonFiniteEntry, Bool.or_eq_false_iff] at h
    have hv := hasNonFinite_withoutInternal h.1
    have hes := anyNonFiniteEntry_withoutInternal h.2
    have hboth : anyNonFiniteEntry ((k, v.withoutInternal) :: entriesWithoutInternal es) = false := by
      rw [anyNonFiniteEntry, hv, hes]
      rfl
    unfold entriesWithoutInternal
    dsimp only
    split
    · split
      · exact hes
      · exact hboth
    · exact hboth

end

end Value

end RequestSql
