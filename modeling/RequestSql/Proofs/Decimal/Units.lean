import Mathlib.Order.Monotone.Basic
import Mathlib.Tactic.Positivity
import RequestSql.Decimal.Double
import RequestSql.Proofs.Decimal.Plain

/-!
# Doubles as multiples of the least one

Every finite double is a multiple of the least positive one. `units` is the multiple at each place in
the order of absolute values: it climbs from place to place, by steps that double after every
`fractionCount` places. The numbers that round to a place lie between the midpoints on its two sides,
which belong to the even one of the two places, so no number rounds to two places.
-/

namespace RequestSql.Double

/-- The value at a place in the order of absolute values, counted in the least positive value. -/
def units (k : Nat) : Nat :=
  (if k < fractionCount then k else fractionCount + k % fractionCount) *
    2 ^ (k / fractionCount - 1)

/-- A place is told by a significand and a scale. Below the full significands there is one scale only,
and the significand after the last one is the first of the next scale. -/
theorem units_scaled {n m : Nat} (hfull : n = 0 ∨ fractionCount ≤ m) (hm : m ≤ 2 * fractionCount) :
    units (n * fractionCount + m) = m * 2 ^ n := by
  unfold units
  have hpos : 0 < fractionCount := by decide
  rcases lt_or_ge m fractionCount with hlow | hhigh
  · obtain rfl := hfull.resolve_right (not_le.mpr hlow)
    rw [Nat.zero_mul, Nat.zero_add, if_pos hlow, Nat.div_eq_of_lt hlow]
  obtain ⟨f, rfl⟩ := Nat.exists_eq_add_of_le hhigh
  have hplace : n * fractionCount + (fractionCount + f) = f + (n + 1) * fractionCount := by ring
  rw [hplace, Nat.add_mul_mod_self_right, Nat.add_mul_div_right _ _ hpos, if_neg (by nlinarith)]
  rcases lt_or_eq_of_le (Nat.le_of_add_le_add_left (by omega : fractionCount + f ≤ _ + fractionCount))
    with hlt | rfl
  · rw [Nat.mod_eq_of_lt hlt, Nat.div_eq_of_lt hlt, Nat.zero_add, Nat.add_sub_cancel]
  · rw [Nat.mod_self, Nat.div_self hpos, Nat.add_zero, Nat.add_sub_cancel_left, Nat.pow_succ]
    ring

theorem exists_scaled (k : Nat) : ∃ n m, k = n * fractionCount + m ∧
    (n = 0 ∨ fractionCount ≤ m) ∧ m < 2 * fractionCount := by
  refine ⟨k / fractionCount - 1, k - (k / fractionCount - 1) * fractionCount, ?_⟩
  unfold fractionCount
  omega

/-- The step from one place to the next is the scale. -/
theorem units_succ_scaled {n m : Nat} (hfull : n = 0 ∨ fractionCount ≤ m)
    (hm : m < 2 * fractionCount) : units (n * fractionCount + m + 1) = (m + 1) * 2 ^ n := by
  rw [Nat.add_assoc, units_scaled (hfull.imp_right Nat.le_succ_of_le) hm]

theorem strictMono_units : StrictMono units := by
  refine strictMono_nat_of_lt_succ fun k => ?_
  obtain ⟨n, m, rfl, hfull, hm⟩ := exists_scaled k
  rw [units_scaled hfull hm.le, units_succ_scaled hfull hm]
  exact Nat.mul_lt_mul_of_pos_right (Nat.lt_succ_self m) (Nat.two_pow_pos n)

@[simp] theorem units_zero : units 0 = 0 := rfl

theorem units_eq_zero_iff {k : Nat} : units k = 0 ↔ k = 0 := by
  refine ⟨fun h => strictMono_units.injective (h.trans units_zero.symm), ?_⟩
  rintro rfl
  exact units_zero

/-! ### The numbers that round to a place -/

/-- The one number is below the other, or as large if the place is even. -/
def Bounds (k : Nat) (a b : ℚ) : Prop := if k % 2 = 0 then a ≤ b else a < b

theorem Bounds.le {k : Nat} {a b : ℚ} (h : Bounds k a b) : a ≤ b := by
  unfold Bounds at h
  split at h
  · exact h
  · exact h.le

theorem bounds_of_lt {k : Nat} {a b : ℚ} (h : a < b) : Bounds k a b := by
  unfold Bounds
  split
  · exact h.le
  · exact h

theorem bounds_of_even {k : Nat} (hk : k % 2 = 0) {a b : ℚ} (h : a ≤ b) : Bounds k a b := by
  rw [Bounds, if_pos hk]
  exact h

theorem bounds_congr {j k : Nat} (h : j % 2 = k % 2) {a b : ℚ} : Bounds j a b ↔ Bounds k a b := by
  rw [Bounds, Bounds, h]

theorem bounds_mul_right {k : Nat} {a b t : ℚ} (ht : 0 < t) :
    Bounds k (a * t) (b * t) ↔ Bounds k a b := by
  rw [Bounds, Bounds, mul_le_mul_iff_of_pos_right ht, mul_lt_mul_iff_of_pos_right ht]

/-- The number, counted in the least positive double, rounds to the place: twice the number is
between the sums of neighbouring values. -/
@[mk_iff rounds_iff]
structure Rounds (w : ℚ) (k : Nat) : Prop where
  above : Bounds k (units (k - 1) + units k) (2 * w)
  below : Bounds k (2 * w) (units k + units (k + 1))

/-- The value of a place rounds to the place. -/
theorem rounds_units (k : Nat) : Rounds (units k) k := by
  have hnext : (units k : ℚ) < units (k + 1) := by
    exact_mod_cast strictMono_units (Nat.lt_succ_self k)
  refine ⟨?_, bounds_of_lt (by linarith)⟩
  rcases Nat.eq_zero_or_pos k with rfl | hpos
  · simp [Bounds]
  · have hprevious : (units (k - 1) : ℚ) < units k := by
      exact_mod_cast strictMono_units (Nat.sub_lt hpos Nat.one_pos)
    exact bounds_of_lt (by linarith)

theorem Rounds.not_lt {w : ℚ} {j k : Nat} (hj : Rounds w j) (hk : Rounds w k) : ¬ j < k := by
  intro hlt
  have hsum : units j + units (j + 1) ≤ units (k - 1) + units k :=
    Nat.add_le_add (strictMono_units.monotone (by omega)) (strictMono_units.monotone hlt)
  have hsum : (units j + units (j + 1) : ℚ) ≤ units (k - 1) + units k := by exact_mod_cast hsum
  have hj := hj.below
  have hk := hk.above
  rcases Nat.lt_or_ge (j + 1) k with hfar | hnear
  · have hgap : units j + units (j + 1) < units (k - 1) + units k :=
      Nat.add_lt_add_of_le_of_lt (strictMono_units.monotone (by omega)) (strictMono_units hfar)
    have hgap : (units j + units (j + 1) : ℚ) < units (k - 1) + units k := by exact_mod_cast hgap
    linarith [hj.le, hk.le]
  · -- of two neighbours one is odd, and the midpoint is not its own
    obtain rfl : k = j + 1 := by omega
    rcases Nat.mod_two_eq_zero_or_one j with heven | hodd
    · rw [Bounds, if_neg (by omega)] at hk
      linarith [hj.le]
    · rw [Bounds, if_neg (by omega)] at hj
      linarith [hk.le]

/-- No number rounds to two places. -/
theorem Rounds.unique {w : ℚ} {j k : Nat} (hj : Rounds w j) (hk : Rounds w k) : j = k :=
  Nat.le_antisymm (Nat.le_of_not_lt (hk.not_lt hj)) (Nat.le_of_not_lt (hj.not_lt hk))

theorem Rounds.pos {w : ℚ} {k : Nat} (h : Rounds w k) (hk : k ≠ 0) : 0 < w := by
  have hunits : (0 : ℚ) < units k := by
    exact_mod_cast units_zero ▸ strictMono_units (Nat.pos_of_ne_zero hk)
  have hprevious : (0 : ℚ) ≤ units (k - 1) := Nat.cast_nonneg _
  linarith [h.above.le]

/-- What rounds to a place is at most the value of any place above. -/
theorem Rounds.le_of_lt {w : ℚ} {j k : Nat} (h : Rounds w j) (hlt : j < k) : w ≤ units k := by
  have hle : (units j : ℚ) ≤ units k := by exact_mod_cast strictMono_units.monotone hlt.le
  have hnext : (units (j + 1) : ℚ) ≤ units k := by exact_mod_cast strictMono_units.monotone hlt
  linarith [h.below.le]

/-- The whole number is nearest to the number, and even if another one is as near. -/
structure Nearest (s : ℚ) (m : Nat) : Prop where
  above : Bounds m (2 * m - 1) (2 * s)
  below : Bounds m (2 * s) (2 * m + 1)

section Scaled

variable {n m : Nat} {s : ℚ}

theorem cast_units_scaled (hfull : n = 0 ∨ fractionCount ≤ m) (hm : m ≤ 2 * fractionCount) :
    (units (n * fractionCount + m) : ℚ) = m * 2 ^ n := by
  rw [units_scaled hfull hm]
  push_cast
  rfl

theorem bounds_scaled {a b : ℚ} :
    Bounds (n * fractionCount + m) (a * 2 ^ n) (b * 2 ^ n) ↔ Bounds m a b := by
  have hparity : (n * fractionCount + m) % 2 = m % 2 := by
    unfold fractionCount
    omega
  rw [bounds_congr hparity, bounds_mul_right (by positivity)]

theorem bounds_above_scaled (hfull : n = 0 ∨ fractionCount ≤ m) (hm : m ≤ 2 * fractionCount)
    (hs : n = 0 ∨ fractionCount ≤ s) (hs0 : 0 ≤ s) (hlow : Bounds m (2 * m - 1) (2 * s)) :
    Bounds (n * fractionCount + m)
      (units (n * fractionCount + m - 1) + units (n * fractionCount + m)) (2 * (s * 2 ^ n)) := by
  by_cases hbottom : n = 0 ∨ fractionCount < m
  · rcases Nat.eq_zero_or_pos m with rfl | hpos
    · obtain rfl : n = 0 := by omega
      simpa [Bounds] using hs0
    · obtain ⟨l, rfl⟩ := Nat.exists_eq_succ_of_ne_zero hpos.ne'
      have hprevious : (units (n * fractionCount + (l + 1) - 1) : ℚ) = l * 2 ^ n := by
        rw [← Nat.add_assoc, Nat.add_sub_cancel, cast_units_scaled (by omega) (by omega)]
      have hsum : (l * 2 ^ n + (l + 1 : Nat) * 2 ^ n : ℚ) = (2 * (l + 1 : Nat) - 1) * 2 ^ n := by
        push_cast
        ring
      rw [cast_units_scaled hfull hm, hprevious, hsum, ← mul_assoc, bounds_scaled]
      exact hlow
  · -- the first full significand: the places below it are nearer to one another
    have hpos : 0 < m := lt_of_lt_of_le (by decide : 0 < fractionCount) (by omega)
    have hprevious : (units (n * fractionCount + m - 1) : ℚ) < units (n * fractionCount + m) := by
      exact_mod_cast strictMono_units (Nat.sub_lt (Nat.add_pos_right _ hpos) Nat.one_pos)
    have hms : (m : ℚ) ≤ s := by
      have hme : m = fractionCount := by omega
      rw [hme]
      exact hs.resolve_left (by omega)
    have hle : (m * 2 ^ n : ℚ) ≤ s * 2 ^ n := mul_le_mul_of_nonneg_right hms (by positivity)
    rw [← cast_units_scaled hfull hm] at hle
    exact bounds_of_lt (by linarith)

theorem bounds_below_scaled (hfull : n = 0 ∨ fractionCount ≤ m) (hm : m ≤ 2 * fractionCount)
    (hs : s < 2 * fractionCount) (hhigh : Bounds m (2 * s) (2 * m + 1)) :
    Bounds (n * fractionCount + m) (2 * (s * 2 ^ n))
      (units (n * fractionCount + m) + units (n * fractionCount + m + 1)) := by
  rcases lt_or_eq_of_le hm with hlt | rfl
  · have hnext : (units (n * fractionCount + m + 1) : ℚ) = (m + 1) * 2 ^ n := by
      rw [units_succ_scaled hfull hlt]
      push_cast
      rfl
    have hsum : (m * 2 ^ n + (m + 1) * 2 ^ n : ℚ) = (2 * m + 1) * 2 ^ n := by ring
    rw [cast_units_scaled hfull hm, hnext, hsum, ← mul_assoc, bounds_scaled]
    exact hhigh
  · have hnext : (units (n * fractionCount + 2 * fractionCount) : ℚ) <
        units (n * fractionCount + 2 * fractionCount + 1) := by
      exact_mod_cast strictMono_units (Nat.lt_succ_self _)
    have hlt : s * 2 ^ n < (2 * fractionCount : Nat) * 2 ^ n :=
      mul_lt_mul_of_pos_right (by exact_mod_cast hs) (by positivity)
    rw [← cast_units_scaled hfull hm] at hlt
    exact bounds_of_lt (by linarith)

/-- A scaled number rounds to the significand that is nearest to it. -/
theorem rounds_scaled (hs0 : 0 ≤ s) (hs : n = 0 ∨ fractionCount ≤ s) (hlt : s < 2 * fractionCount)
    (hnear : Nearest s m) : Rounds (s * 2 ^ n) (n * fractionCount + m) := by
  have hm : m ≤ 2 * fractionCount := by
    have hle : (2 * m : ℚ) < 2 * (2 * fractionCount) + 1 := by linarith [hnear.above.le]
    have hle : 2 * m < 2 * (2 * fractionCount) + 1 := by exact_mod_cast hle
    omega
  have hfull : n = 0 ∨ fractionCount ≤ m := hs.imp_right fun hle => by
    have hle : (2 * fractionCount : ℚ) ≤ 2 * m + 1 := by linarith [hnear.below.le]
    have hle : 2 * fractionCount ≤ 2 * m + 1 := by exact_mod_cast hle
    omega
  exact ⟨bounds_above_scaled hfull hm hs hs0 hnear.above, bounds_below_scaled hfull hm hlt hnear.below⟩

end Scaled

/-! ### Doubles and their places -/

variable {x : Double}

/-- The number that a finite double stands for. -/
def toRat (x : Double) : ℚ := Decimal.signOf x.negative * (x.significand * 2 ^ x.power)

/-- How often the least scale is doubled. -/
def scaling (x : Double) : Nat := x.exponent.val - 1

theorem power_eq (x : Double) : x.power = x.scaling - 1074 := by
  unfold power scaling
  omega

theorem magnitude_eq (x : Double) :
    x.magnitude = x.scaling * fractionCount + x.significand := by
  unfold magnitude significand scaling fractionCount
  split <;> omega

theorem significand_full (x : Double) : x.scaling = 0 ∨ fractionCount ≤ x.significand := by
  unfold significand scaling
  split <;> omega

theorem significand_lt (x : Double) : x.significand < 2 * fractionCount := by
  have hf := x.fraction.isLt
  unfold significand
  split <;> omega

theorem units_magnitude (x : Double) : units x.magnitude = x.significand * 2 ^ x.scaling := by
  rw [magnitude_eq, units_scaled x.significand_full x.significand_lt.le]

theorem abs_toRat (x : Double) : |x.toRat| = x.significand * 2 ^ x.power := by
  rw [toRat, abs_mul, Decimal.abs_signOf, one_mul, abs_of_nonneg (by positivity)]

/-- The value of a double, counted in the least positive one. -/
theorem abs_toRat_scaled (x : Double) : |x.toRat| * 2 ^ 1074 = units x.magnitude := by
  rw [abs_toRat, units_magnitude, power_eq]
  push_cast
  rw [mul_assoc, zpow_sub₀ (by norm_num)]
  norm_num

theorem isFinite_iff : x.isFinite = true ↔ x.magnitude < 2047 * fractionCount := by
  have hf := x.fraction.isLt
  unfold isFinite magnitude
  rw [decide_eq_true_eq]
  unfold fractionCount at *
  omega

/-- A finite double is told by its sign and its place. -/
theorem ofMagnitude_magnitude (h : x.isFinite = true) : ofMagnitude x.negative x.magnitude = x := by
  have hmod : x.magnitude % fractionCount = x.fraction := by
    rw [magnitude, Nat.mul_comm, Nat.mul_add_mod, Nat.mod_eq_of_lt x.fraction.isLt]
  have hdiv : x.magnitude / fractionCount = x.exponent := by
    rw [magnitude, Nat.mul_comm, Nat.mul_add_div (by decide), Nat.div_eq_of_lt x.fraction.isLt,
      Nat.add_zero]
  rw [ofMagnitude, if_pos (isFinite_iff.mp h), hdiv]
  obtain ⟨negative, exponent, fraction⟩ := x
  congr
  · exact Fin.ext (Nat.mod_eq_of_lt exponent.isLt)
  · exact Fin.ext hmod

end RequestSql.Double
