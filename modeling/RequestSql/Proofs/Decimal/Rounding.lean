import Mathlib.Tactic.NormNum
import RequestSql.Proofs.Decimal.Units

/-!
# The double nearest to a decimal

A quotient of naturals is rounded to the whole number nearest to it, and a decimal to the double
whose place it rounds to. So the double depends on the value of the decimal alone, and a decimal that
rounds to the place of a double is read as that double.
-/

namespace RequestSql.Double

theorem cast_twoTo (n : Nat) : (twoTo n : ℚ) = 2 ^ n := Nat.cast_pow 2 n

theorem cast_tenTo (n : Nat) : (tenTo n : ℚ) = 10 ^ n := Nat.cast_pow 10 n

theorem nearest_roundQuotient (num : Nat) {den : Nat} (hden : 0 < den) :
    Nearest (num / den) (roundQuotient num den) := by
  have hpos : (0 : ℚ) < den := by exact_mod_cast hden
  have hnum : (num : ℚ) = den * (num / den : Nat) + (num % den : Nat) := by
    exact_mod_cast (Nat.div_add_mod num den).symm
  have hrem : ((num % den : Nat) : ℚ) < den := by exact_mod_cast Nat.mod_lt num hden
  have htwice : 2 * (num / den : ℚ) * den = 2 * num := by
    rw [mul_assoc, div_mul_cancel₀ _ hpos.ne']
  suffices hmul : Bounds (roundQuotient num den) ((2 * roundQuotient num den - 1) * den) (2 * num) ∧
      Bounds (roundQuotient num den) (2 * num) ((2 * roundQuotient num den + 1) * den) by
    rw [← htwice, bounds_mul_right hpos, bounds_mul_right hpos] at hmul
    exact ⟨hmul.1, hmul.2⟩
  have hrem0 : (0 : ℚ) ≤ (num % den : Nat) := Nat.cast_nonneg _
  unfold roundQuotient
  simp only
  split_ifs with hless hmore heven
  · have hless : (2 * (num % den : Nat) : ℚ) < den := by exact_mod_cast hless
    exact ⟨bounds_of_lt (by linarith), bounds_of_lt (by linarith)⟩
  · have hmore : (den : ℚ) < 2 * (num % den : Nat) := by exact_mod_cast hmore
    push_cast
    exact ⟨bounds_of_lt (by linarith), bounds_of_lt (by linarith)⟩
  · have hhalf : (2 * (num % den : Nat) : ℚ) = den := by
      exact_mod_cast le_antisymm (not_lt.mp hmore) (not_lt.mp hless)
    exact ⟨bounds_of_lt (by linarith), bounds_of_even heven (by linarith)⟩
  · have hhalf : (2 * (num % den : Nat) : ℚ) = den := by
      exact_mod_cast le_antisymm (not_lt.mp hmore) (not_lt.mp hless)
    push_cast
    exact ⟨bounds_of_even (by omega) (by linarith), bounds_of_lt (by linarith)⟩

/-- The logarithms of the two numbers tell that of their quotient, but for one. -/
theorem log2_quotient_bounds {num den : Nat} (hnum : num ≠ 0) (hden : den ≠ 0) :
    (2 : ℚ) ^ ((num.log2 : Int) - den.log2 - 1) < num / den ∧
      (num / den : ℚ) < 2 ^ ((num.log2 : Int) - den.log2 + 1) := by
  have hpos : (0 : ℚ) < den := by exact_mod_cast Nat.pos_of_ne_zero hden
  have hnumLow : (2 ^ num.log2 : ℚ) ≤ num := by exact_mod_cast Nat.log2_self_le hnum
  have hnumHigh : (num : ℚ) < 2 ^ (num.log2 + 1) := by exact_mod_cast Nat.lt_log2_self
  have hdenLow : (2 ^ den.log2 : ℚ) ≤ den := by exact_mod_cast Nat.log2_self_le hden
  have hdenHigh : (den : ℚ) < 2 ^ (den.log2 + 1) := by exact_mod_cast Nat.lt_log2_self
  rw [lt_div_iff₀ hpos, div_lt_iff₀ hpos]
  constructor
  · calc (2 : ℚ) ^ ((num.log2 : Int) - den.log2 - 1) * den
        < 2 ^ ((num.log2 : Int) - den.log2 - 1) * 2 ^ (den.log2 + 1) :=
          mul_lt_mul_of_pos_left hdenHigh (by positivity)
      _ = 2 ^ num.log2 := by
          rw [← zpow_natCast, ← zpow_natCast, ← zpow_add₀ (by norm_num)]
          congr 1
          push_cast
          ring
      _ ≤ num := hnumLow
  · calc (num : ℚ) < 2 ^ (num.log2 + 1) := hnumHigh
      _ = 2 ^ ((num.log2 : Int) - den.log2 + 1) * 2 ^ den.log2 := by
          rw [← zpow_natCast, ← zpow_natCast, ← zpow_add₀ (by norm_num)]
          congr 1
          push_cast
          ring
      _ ≤ 2 ^ ((num.log2 : Int) - den.log2 + 1) * den :=
          mul_le_mul_of_nonneg_left hdenLow (by positivity)

theorem reaches_iff {num den : Nat} (hden : 0 < den) (t : Int) :
    den * twoTo t.toNat ≤ num * twoTo (-t).toNat ↔ (2 : ℚ) ^ t ≤ num / den := by
  have hpos : (0 : ℚ) < den := by exact_mod_cast hden
  rw [Decimal.zpow_eq_div (by norm_num) t, div_le_div_iff₀ (by positivity) hpos, ← cast_twoTo,
    ← cast_twoTo, mul_comm (den : Nat)]
  exact_mod_cast Iff.rfl

/-- A quotient whose first binary digit is known rounds to the place that the rounded significand of
its scale tells. -/
theorem rounds_roundQuotient {num den : Nat} (hden : 0 < den) {top q : Int}
    (hlow : (2 : ℚ) ^ top ≤ num / den) (hhigh : (num / den : ℚ) < 2 ^ (top + 1))
    (hq : q = max (top - 52) (-1074)) :
    Rounds (num / den * 2 ^ 1074) ((q + 1074).toNat * fractionCount +
      roundQuotient (num * twoTo (-q).toNat) (den * twoTo q.toNat)) := by
  have hnear := nearest_roundQuotient (num * twoTo (-q).toNat) (Nat.mul_pos hden (twoTo_pos q.toNat))
  have hpow : (0 : ℚ) < 2 ^ q := by positivity
  have hscaled : ((num * twoTo (-q).toNat : Nat) / (den * twoTo q.toNat : Nat) : ℚ) =
      num / den / 2 ^ q := by
    rw [Nat.cast_mul, Nat.cast_mul, cast_twoTo, cast_twoTo, Decimal.zpow_eq_div (by norm_num) q,
      div_div_div_eq]
  have hplace : (num / den * 2 ^ 1074 : ℚ) = num / den / 2 ^ q * 2 ^ (q + 1074).toNat := by
    have htoNat : ((q + 1074).toNat : Int) = q + 1074 := by omega
    rw [← zpow_natCast (2 : ℚ) (q + 1074).toNat, htoNat, zpow_add₀ (by norm_num), ← mul_assoc,
      div_mul_cancel₀ _ hpow.ne']
    rfl
  have hcount : (fractionCount : ℚ) = 2 ^ (52 : Int) := by norm_num [fractionCount]
  rw [hscaled] at hnear
  rw [hplace]
  refine rounds_scaled (by positivity) ?_ ?_ hnear
  · rcases le_total (top - 52) (-1074) with hleast | hgreater
    · exact .inl (by omega)
    · refine .inr ?_
      have hexponent : 52 + q = top := by omega
      rwa [le_div_iff₀ hpow, hcount, ← zpow_add₀ (by norm_num), hexponent]
  · have hcount : (2 * fractionCount : ℚ) = 2 ^ (53 : Int) := by norm_num [fractionCount]
    rw [div_lt_iff₀ hpow, hcount, ← zpow_add₀ (by norm_num)]
    exact hhigh.trans_le (zpow_le_zpow_right₀ (by norm_num) (by omega))

/-- A quotient is taken to the double of the place that it rounds to. -/
theorem exists_rounds_quotient (negative : Bool) {num den : Nat} (hnum : 0 < num) (hden : 0 < den) :
    ∃ k, Rounds (num / den * 2 ^ 1074) k ∧ ofQuotient negative num den = ofMagnitude negative k := by
  obtain ⟨hlow, hhigh⟩ := log2_quotient_bounds hnum.ne' hden.ne'
  unfold ofQuotient
  simp only [reaches_iff hden]
  refine ⟨_, ?_, rfl⟩
  split
  · exact rounds_roundQuotient hden ‹_› hhigh rfl
  · rename_i hnot
    refine rounds_roundQuotient hden hlow.le ?_ rfl
    rw [sub_add_cancel]
    exact not_le.mp hnot

/-! ### Decimals -/

theorem half_least : 2 ^ 1075 ≤ 10 ^ 331 := by decide +kernel

theorem beyond_greatest : 2 ^ 1024 < 10 ^ 310 := by decide +kernel

theorem cast_units_infinity : (units (2047 * fractionCount) : ℚ) = 2 ^ 1024 * 2 ^ 1074 := by
  have hplace : 2047 * fractionCount = 2046 * fractionCount + fractionCount := by decide
  have hcount : (fractionCount : ℚ) = 2 ^ 52 := by norm_num [fractionCount]
  rw [hplace, cast_units_scaled (.inr le_rfl) (by omega), hcount, ← pow_add, ← pow_add]

/-- What is less than half of the least double rounds to zero. -/
theorem rounds_of_vanishing {v : ℚ} (hv : 0 ≤ v) (hsmall : v < 10 ^ (-331 : Int)) :
    Rounds (v * 2 ^ 1074) 0 := by
  have hhalf : (10 ^ (-331 : Int) * 2 ^ 1075 : ℚ) ≤ 1 := by
    rw [zpow_neg, inv_mul_le_iff₀ (by positivity), mul_one]
    exact_mod_cast half_least
  have hle : v * 2 ^ 1075 ≤ 10 ^ (-331 : Int) * 2 ^ 1075 :=
    mul_le_mul_of_nonneg_right hsmall.le (by positivity)
  have hone : units (0 + 1) = 1 := rfl
  refine ⟨bounds_of_even rfl ?_, bounds_of_even rfl ?_⟩
  · rw [units_zero, Nat.cast_zero, add_zero]
    positivity
  · rw [units_zero, hone, Nat.cast_zero, Nat.cast_one, zero_add, mul_left_comm, ← pow_succ']
    exact hle.trans hhalf

/-- What is beyond the greatest double rounds to no place of a finite one. -/
theorem Rounds.not_finite {v : ℚ} {k : Nat} (h : Rounds (v * 2 ^ 1074) k)
    (hlarge : 10 ^ (310 : Int) ≤ v) : ¬ k < 2047 * fractionCount := by
  intro hfinite
  have hle : (10 ^ (310 : Int) * 2 ^ 1074 : ℚ) ≤ 2 ^ 1024 * 2 ^ 1074 := by
    rw [← cast_units_infinity]
    exact (mul_le_mul_of_nonneg_right hlarge (by positivity)).trans (h.le_of_lt hfinite)
  have hle : (10 ^ (310 : Int) : ℚ) ≤ 2 ^ 1024 := le_of_mul_le_mul_right hle (by positivity)
  exact absurd (by exact_mod_cast hle) (not_le.mpr beyond_greatest)

/-- A decimal is read as the double of the place that its value rounds to. -/
theorem exists_rounds_decimal (negative : Bool) (c : Nat) (e : Int) :
    ∃ k, Rounds (c * 10 ^ e * 2 ^ 1074) k ∧ ofDecimal negative c e = ofMagnitude negative k := by
  rcases Nat.eq_zero_or_pos c with rfl | hpos
  · refine ⟨0, ?_, by simp [ofDecimal]⟩
    simpa using rounds_units 0
  obtain ⟨hlow, hhigh⟩ := Decimal.digits_bounds hpos.ne' e
  have hquotient : ((c * tenTo e.toNat : Nat) / (tenTo (-e).toNat : Nat) : ℚ) = c * 10 ^ e := by
    rw [Nat.cast_mul, cast_tenTo, cast_tenTo, Decimal.zpow_eq_div (by norm_num) e, mul_div_assoc]
  obtain ⟨k, hrounds, hk⟩ := exists_rounds_quotient negative
    (Nat.mul_pos hpos (tenTo_pos e.toNat)) (tenTo_pos (-e).toNat)
  rw [hquotient] at hrounds
  unfold ofDecimal
  simp only [hpos.ne', false_or]
  split
  · have hsmall : (c * 10 ^ e : ℚ) < 10 ^ (-331 : Int) :=
      hhigh.trans_le (zpow_le_zpow_right₀ (by norm_num) (by omega))
    exact ⟨0, rounds_of_vanishing (by positivity) hsmall, rfl⟩
  split
  · have hlarge : (10 : ℚ) ^ (310 : Int) ≤ c * 10 ^ e :=
      (zpow_le_zpow_right₀ (by norm_num) (by omega)).trans hlow
    exact ⟨k, hrounds, (if_neg (hrounds.not_finite hlarge)).symm⟩
  · exact ⟨k, hrounds, hk⟩

/-- A decimal that rounds to the place of a finite double is read as that double. -/
theorem ofDecimal_of_rounds {x : Double} (hx : x.isFinite = true) {c : Nat} {e : Int}
    (h : Rounds (c * 10 ^ e * 2 ^ 1074) x.magnitude) : ofDecimal x.negative c e = x := by
  obtain ⟨k, hk, hdecimal⟩ := exists_rounds_decimal x.negative c e
  rw [hdecimal, hk.unique h, ofMagnitude_magnitude hx]

end RequestSql.Double
