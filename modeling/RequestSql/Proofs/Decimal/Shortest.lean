import RequestSql.Decimal.Shortest
import RequestSql.Proofs.Decimal.Rounding

/-!
# The shortest decimal of a double

A decimal reads back as a double exactly if its value rounds to the place of the double, so whatever
grid of digits the shortest decimal is taken from, and also if it is the exact value, the double is
the one nearest to it.
-/

namespace RequestSql.Double

variable {x : Double} {c : Nat} {e : Int}

/-- A quarter of the step at a finite double, in units of half the least one. -/
def quarter (x : Double) : ℚ := 2 ^ (x.power - 2) * 2 ^ 1075

theorem two_pow_scaling (x : Double) : (2 : ℚ) ^ x.scaling = 2 * x.quarter := by
  have hpower : (x.power - 2 + 1075 : Int) = x.scaling - 1 := by
    rw [power_eq]
    ring
  have hsplit : x.quarter = 2 ^ ((x.scaling : Int) - 1) := by
    rw [quarter, ← hpower, zpow_add₀ (by norm_num) (x.power - 2)]
    rfl
  rw [hsplit, zpow_sub_one₀ (by norm_num), zpow_natCast, mul_comm, inv_mul_cancel_right₀ (by norm_num)]

/-- The midpoint above a double. -/
theorem midpoint_above (x : Double) :
    (units x.magnitude + units (x.magnitude + 1) : ℚ) = (4 * x.significand + 2 : Nat) * x.quarter := by
  rw [magnitude_eq, units_scaled x.significand_full x.significand_lt.le,
    units_succ_scaled x.significand_full x.significand_lt]
  push_cast
  rw [two_pow_scaling]
  ring

/-- Below the first significand of a scale the step is half as large. -/
theorem midpoint_narrow (h : x.narrowBelow = true) :
    (units (x.magnitude - 1) + units x.magnitude : ℚ) = (4 * x.significand - 1 : Nat) * x.quarter := by
  have ⟨hfraction, hexponent⟩ : x.fraction.val = 0 ∧ 1 < x.exponent.val := by
    simpa [narrowBelow] using h
  have hsignificand : x.significand = fractionCount := by
    rw [significand, if_neg (by omega), hfraction, Nat.add_zero]
  obtain ⟨n, hn⟩ : ∃ n, x.scaling = n + 1 := ⟨x.exponent.val - 2, by unfold scaling; omega⟩
  have hplace : x.magnitude - 1 = n * fractionCount + (2 * fractionCount - 1) := by
    rw [magnitude_eq, hn, hsignificand]
    unfold fractionCount
    omega
  have hscale : (2 : ℚ) ^ n = x.quarter := by
    have htwo := x.two_pow_scaling
    rw [hn, pow_succ'] at htwo
    exact mul_left_cancel₀ (by norm_num) htwo
  have hprevious : units (x.magnitude - 1) = (2 * fractionCount - 1) * 2 ^ n := by
    rw [hplace, units_scaled (.inr (by decide)) (by omega)]
  rw [hprevious, units_magnitude, hsignificand, hn]
  push_cast
  rw [pow_succ, hscale]
  ring

/-- Elsewhere the midpoint below is as near as the one above. -/
theorem midpoint_wide (h : x.narrowBelow = false) :
    (units (x.magnitude - 1) + units x.magnitude : ℚ) = (4 * x.significand - 2 : Nat) * x.quarter := by
  rcases Nat.eq_zero_or_pos x.significand with hzero | hpos
  · have hscaling : x.scaling = 0 := x.significand_full.resolve_right (by rw [hzero]; decide)
    have hmagnitude : x.magnitude = 0 := by rw [magnitude_eq, hzero, hscaling]; rfl
    rw [hmagnitude, hzero]
    simp
  · obtain ⟨l, hl⟩ : ∃ l, x.significand = l + 1 := ⟨x.significand - 1, by omega⟩
    have hfull : x.scaling = 0 ∨ fractionCount ≤ l := by
      have h : x.fraction.val ≠ 0 ∨ x.exponent.val ≤ 1 := by
        simpa [narrowBelow, imp_iff_not_or] using h
      unfold significand at hl
      unfold scaling
      split at hl <;> omega
    have hlt : l < 2 * fractionCount := by
      have := x.significand_lt
      omega
    have hprevious : units (x.magnitude - 1) = l * 2 ^ x.scaling := by
      rw [magnitude_eq, hl, ← Nat.add_assoc, Nat.add_sub_cancel, units_scaled hfull hlt.le]
    have hcount : 4 * (l + 1) - 2 = 4 * l + 2 := by omega
    rw [hprevious, units_magnitude, hl, hcount]
    push_cast
    rw [two_pow_scaling]
    ring

theorem midpoint_below (x : Double) : (units (x.magnitude - 1) + units x.magnitude : ℚ) =
    (4 * x.significand - (if x.narrowBelow then 1 else 2) : Nat) * x.quarter := by
  split
  · exact midpoint_narrow ‹_›
  · exact midpoint_wide (Bool.eq_false_of_not_eq_true ‹_›)

theorem parity_magnitude (x : Double) : x.magnitude % 2 = x.significand % 2 := by
  rw [magnitude_eq]
  unfold fractionCount
  omega

/-- The comparison of a decimal with the ends of the interval is one of naturals, after both have
lost their denominators. -/
theorem exists_denominator (x : Double) (c : Nat) (e : Int) : ∃ t : ℚ, 0 < t ∧
    (c * tenTo e.toNat * twoTo (2 - x.power).toNat : Nat) * t = 2 * (c * 10 ^ e * 2 ^ 1074) ∧
    ∀ a : Nat, (a * (twoTo (x.power - 2).toNat * tenTo (-e).toNat) : Nat) * t = a * x.quarter := by
  have hneg : 2 - x.power = -(x.power - 2) := by ring
  refine ⟨2 ^ 1075 / (2 ^ (2 - x.power).toNat * 10 ^ (-e).toNat), by positivity, ?_, fun a => ?_⟩
  · rw [Nat.cast_mul, Nat.cast_mul, cast_twoTo, cast_tenTo, Decimal.zpow_eq_div (by norm_num) e,
      pow_succ]
    field_simp
  · rw [quarter, Nat.cast_mul, Nat.cast_mul, cast_twoTo, cast_tenTo,
      Decimal.zpow_eq_div (by norm_num) (x.power - 2), hneg]
    field_simp

/-- A decimal reads back exactly if its value rounds to the place of the double. -/
theorem readsBack_iff (x : Double) (c : Nat) (e : Int) :
    x.readsBack c e = true ↔ Rounds (c * 10 ^ e * 2 ^ 1074) x.magnitude := by
  obtain ⟨t, ht, hvalue, hend⟩ := exists_denominator x c e
  rw [rounds_iff, midpoint_below, midpoint_above, ← hvalue, ← hend, ← hend, bounds_mul_right ht,
    bounds_mul_right ht, bounds_congr x.parity_magnitude, bounds_congr x.parity_magnitude]
  unfold readsBack Bounds
  simp only
  split
  · rw [Bool.and_eq_true, decide_eq_true_eq, decide_eq_true_eq, Nat.cast_le, Nat.cast_le]
  · rw [Bool.and_eq_true, decide_eq_true_eq, decide_eq_true_eq, Nat.cast_lt, Nat.cast_lt]

/-! ### The shortest decimal reads back -/

theorem roundQuotient_eq (num den : Nat) :
    roundQuotient num den = num / den ∨ roundQuotient num den = num / den + 1 := by
  unfold roundQuotient
  simp only
  split_ifs
  · exact .inl rfl
  · exact .inr rfl
  · exact .inl rfl
  · exact .inr rfl

/-- What a grid gives reads back. -/
theorem readsBack_of_onGrid {r : Nat × Int} (h : x.onGrid e = some r) :
    x.readsBack r.1 r.2 = true := by
  unfold onGrid at h
  simp only at h
  split at h
  · cases h
  · obtain rfl := Option.some.inj h
    assumption
  · obtain rfl := Option.some.inj h
    assumption
  · obtain rfl := Option.some.inj h
    rcases roundQuotient_eq _ _ with heq | heq
    · rw [heq]
      assumption
    · rw [heq]
      assumption

/-- The exact decimal has the value of the double. -/
theorem exactDecimal_value (x : Double) :
    (x.exactDecimal.1 * 10 ^ x.exactDecimal.2 : ℚ) = x.significand * 2 ^ x.power := by
  unfold exactDecimal
  split
  · rename_i hpower
    rw [Nat.cast_mul, cast_twoTo, zpow_zero, mul_one, ← zpow_natCast, Int.toNat_of_nonneg hpower]
  · rename_i hpower
    have hten : (10 : ℚ) ^ x.power = 5 ^ x.power * 2 ^ x.power := by
      rw [← mul_zpow]
      norm_num
    have hfive : ((Nat.pow 5 (-x.power).toNat : Nat) : ℚ) = (5 ^ x.power)⁻¹ := by
      rw [Nat.pow_eq, Nat.cast_pow, ← zpow_neg, ← zpow_natCast, Int.toNat_of_nonneg (by omega)]
      rfl
    rw [Nat.cast_mul, hfive, hten, mul_assoc, ← mul_assoc (5 ^ x.power)⁻¹,
      inv_mul_cancel₀ (by positivity), one_mul]

theorem stripZeros_value (bound : Nat) (c : Nat) (e : Int) :
    ((Decimal.stripZeros bound c e).1 * 10 ^ (Decimal.stripZeros bound c e).2 : ℚ) = c * 10 ^ e := by
  induction bound generalizing c e with
  | zero => rfl
  | succ bound ih =>
    unfold Decimal.stripZeros
    split
    · rename_i hzero
      have hten : (c : ℚ) = (c / 10 : Nat) * 10 := by
        exact_mod_cast (Nat.div_mul_cancel (Nat.dvd_of_mod_eq_zero hzero.2)).symm
      rw [ih, zpow_add_one₀ (by norm_num), hten]
      ring
    · rfl

/-- Trailing zeros are dropped into the exponent, so the value stays. -/
theorem reduced_value (c : Nat) (e : Int) :
    ((Decimal.reduced c e).1 * 10 ^ (Decimal.reduced c e).2 : ℚ) = c * 10 ^ e := by
  unfold Decimal.reduced
  split
  · rename_i hzero
    rw [hzero, Nat.cast_zero, zero_mul, zero_mul]
  · exact stripZeros_value _ c e

/-- The value of the shortest decimal rounds to the place of the double. -/
theorem rounds_shortest (x : Double) :
    Rounds (x.shortest.1 * 10 ^ x.shortest.2 * 2 ^ 1074) x.magnitude := by
  unfold shortest
  simp only
  rw [reduced_value]
  cases hgrid : (List.range 17).findSome? fun (n : Nat) => x.onGrid (x.scale - (n + 1)) with
  | some r =>
    obtain ⟨n, -, hn⟩ := List.exists_of_findSome?_eq_some hgrid
    exact (x.readsBack_iff _ _).mp (readsBack_of_onGrid hn)
  | none =>
    rw [Option.getD_none, exactDecimal_value, ← abs_toRat, abs_toRat_scaled]
    exact rounds_units x.magnitude

theorem shortest_ne_zero (h : x.magnitude ≠ 0) : x.shortest.1 ≠ 0 := by
  intro hzero
  have hpos := x.rounds_shortest.pos h
  rw [hzero, Nat.cast_zero, zero_mul, zero_mul] at hpos
  exact lt_irrefl _ hpos

end RequestSql.Double
