import RequestSql.Text.Upper

/-!
# Upper case is final

A text in upper case is its own upper case, and only the empty text has an empty one. The table moves
no code point that it leads to. The two sets are compared as numbers with a bit for each code point.
-/

namespace RequestSql.Text

/-- The code points of a run. -/
def CaseRun.members (r : CaseRun) : List Nat :=
  (List.range ((r.last - r.first) / r.step + 1)).map fun i => r.first + r.step * i

/-- The code points that the table moves. -/
def moved : List Nat := upperExpansions.map Prod.fst ++ upperRuns.flatMap CaseRun.members

/-- The code points that the table leads to. -/
def reached : List Nat :=
  upperExpansions.flatMap Prod.snd ++
    upperRuns.flatMap fun r => r.members.map fun n : Nat => (n + r.shift).toNat

/-- The number that has the bits of a list. -/
def bits (ns : List Nat) : Nat := ns.foldr (fun n m => 1 <<< n ||| m) 0

theorem testBit_bits (ns : List Nat) (n : Nat) : (bits ns).testBit n = decide (n ∈ ns) := by
  induction ns with
  | nil => simp [bits]
  | cons m ns ih =>
    have hcons : bits (m :: ns) = 1 <<< m ||| bits ns := rfl
    rw [hcons, Nat.testBit_or, ih, Nat.one_shiftLeft, Nat.testBit_two_pow]
    simp [eq_comm]

theorem moved_land_reached : bits moved &&& bits reached = 0 := by decide +kernel

theorem not_mem_moved {n : Nat} (h : n ∈ reached) : n ∉ moved := by
  intro hmoved
  have hbit := congrArg (Nat.testBit · n) moved_land_reached
  simp only [Nat.testBit_and, testBit_bits, Nat.zero_testBit] at hbit
  simp [h, hmoved] at hbit

theorem CaseRun.mem_members {r : CaseRun} {n : Nat} (h : r.holds n = true) : n ∈ r.members := by
  simp only [holds, Bool.and_eq_true, decide_eq_true_eq, beq_iff_eq] at h
  obtain ⟨⟨hfirst, hlast⟩, hstep⟩ := h
  have hn : r.first + r.step * ((n - r.first) / r.step) = n := by
    have hdiv := Nat.div_add_mod (n - r.first) r.step
    omega
  refine List.mem_map.mpr ⟨(n - r.first) / r.step, ?_, hn⟩
  rw [List.mem_range, Nat.lt_succ_iff]
  exact Nat.div_le_div_right (Nat.sub_le_sub_right hlast _)

theorem upperChar_of_not_mem_moved {c : Char} (h : c.toNat ∉ moved) : upperChar c = [c] := by
  rw [moved, List.mem_append, not_or] at h
  obtain ⟨hexpansion, hrun⟩ := h
  have hlookup : upperExpansions.lookup c.toNat = none := by
    refine List.lookup_eq_none_iff.mpr fun e he => bne_iff_ne.mpr fun hc => hexpansion ?_
    exact List.mem_map.mpr ⟨e, he, hc.symm⟩
  have hfind : upperRuns.find? (·.holds c.toNat) = none := by
    refine List.find?_eq_none.mpr fun r hr hholds => hrun ?_
    exact List.mem_flatMap.mpr ⟨r, hr, r.mem_members hholds⟩
  rw [upperChar, hlookup, hfind]

theorem upperChar_ofNat {n : Nat} (h : n ∈ reached) :
    upperChar (Char.ofNat n) = [Char.ofNat n] := by
  by_cases hn : n.isValidChar
  · refine upperChar_of_not_mem_moved ?_
    have hnat : (Char.ofNat n).toNat = n := by
      rw [Char.ofNat, dif_pos hn]
      rfl
    rw [hnat]
    exact not_mem_moved h
  · rw [Char.ofNat, dif_neg hn]
    rfl

theorem upperChar_of_mem_upperChar {c x : Char} (h : x ∈ upperChar c) : upperChar x = [x] := by
  unfold upperChar at h
  split at h
  · rename_i ns hlookup
    obtain ⟨n, hn, rfl⟩ := List.mem_map.mp h
    obtain ⟨before, after, he, -⟩ := List.lookup_eq_some_iff.mp hlookup
    refine upperChar_ofNat (List.mem_append_left _ (List.mem_flatMap.mpr ⟨(c.toNat, ns), ?_, hn⟩))
    simp [he]
  · rename_i hlookup
    split at h
    · rename_i r hfind
      obtain rfl := List.mem_singleton.mp h
      have hholds : r.holds c.toNat = true :=
        List.find?_some (p := fun r : CaseRun => r.holds c.toNat) hfind
      exact upperChar_ofNat (List.mem_append_right _ (List.mem_flatMap.mpr
        ⟨r, List.mem_of_find?_eq_some hfind, List.mem_map.mpr ⟨c.toNat, r.mem_members hholds, rfl⟩⟩))
    · rename_i hfind
      obtain rfl := List.mem_singleton.mp h
      rw [upperChar, hlookup, hfind]

theorem upperChars_of_final {cs : List Char} (h : ∀ c ∈ cs, upperChar c = [c]) :
    upperChars cs = cs := by
  induction cs with
  | nil => rfl
  | cons c cs ih =>
    rw [List.forall_mem_cons] at h
    rw [upperChars, List.flatMap_cons, h.1, ← upperChars, ih h.2, List.singleton_append]

theorem upper_upper (s : String) : upper (upper s) = upper s := by
  have hfinal : ∀ x ∈ upperChars s.toList, upperChar x = [x] := by
    intro x hx
    obtain ⟨c, -, hc⟩ := List.mem_flatMap.mp hx
    exact upperChar_of_mem_upperChar hc
  rw [← String.toList_inj, toList_upper, toList_upper, upperChars_of_final hfinal]

theorem upperChar_ne_nil (c : Char) : upperChar c ≠ [] := by
  have hexpansions : ∀ e ∈ upperExpansions, e.2 ≠ [] := by decide
  unfold upperChar
  split
  · rename_i ns hlookup
    obtain ⟨before, after, he, -⟩ := List.lookup_eq_some_iff.mp hlookup
    have hne : ns ≠ [] := hexpansions (c.toNat, ns) (by simp [he])
    simpa using hne
  · split
    · exact List.cons_ne_nil _ _
    · exact List.cons_ne_nil _ _

theorem upper_ne_empty {s : String} (h : s ≠ "") : upper s ≠ "" := by
  intro hempty
  have hlist := congrArg String.toList hempty
  rw [toList_upper, upperChars] at hlist
  obtain ⟨c, cs, hs⟩ := List.exists_cons_of_ne_nil (mt String.toList_eq_nil_iff.mp h)
  rw [hs, List.flatMap_cons] at hlist
  exact upperChar_ne_nil c (List.append_eq_nil_iff.mp hlist).1

end RequestSql.Text
