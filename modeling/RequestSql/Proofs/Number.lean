import Mathlib.Data.Nat.Cast.Field
import RequestSql.Number
import RequestSql.Proofs.Decimal.RoundTrip

/-!
# The literals of integers and doubles

Integers, and doubles that are zero or of ordinary size, are written out as plain numerals. The literal
of a whole number denotes exactly that number, and the literal of any other double denotes what its
natural text does. Either way the double is the one nearest to what is written, so the literal reads
back, and two doubles share a literal only if they are the same or both are zero.
-/

namespace RequestSql

namespace Double

variable {x y : Double}

theorem abs_toRat_le_iff : |x.toRat| ≤ |y.toRat| ↔ x.magnitude ≤ y.magnitude := by
  have hscale : (0 : ℚ) < 2 ^ 1074 := by positivity
  rw [← mul_le_mul_iff_of_pos_right hscale, abs_toRat_scaled, abs_toRat_scaled, Nat.cast_le,
    strictMono_units.le_iff_le]

theorem toRat_eq_zero_iff : x.toRat = 0 ↔ x.magnitude = 0 := by
  have hscale : (2 : ℚ) ^ 1074 ≠ 0 := by positivity
  rw [← abs_eq_zero, ← mul_left_inj' hscale, zero_mul, abs_toRat_scaled, Nat.cast_eq_zero,
    units_eq_zero_iff]

theorem abs_toRat_of_not_negative (h : x.negative = false) : |x.toRat| = x.toRat := by
  rw [abs_toRat, toRat, h, Decimal.signOf, if_neg Bool.false_ne_true, one_mul]

/-- A double other than zero is negative if its sign says so. -/
theorem toRat_neg_iff (h : x.toRat ≠ 0) : x.toRat < 0 ↔ x.negative = true := by
  have hpos : 0 < |x.toRat| := abs_pos.mpr h
  rw [abs_toRat] at hpos
  rw [toRat]
  cases x.negative with
  | true => simpa [Decimal.signOf] using hpos
  | false => simpa [Decimal.signOf] using hpos.le

/-! ### Whole doubles -/

theorem abs_toRat_of_isIntegral (h : x.isIntegral = true) : |x.toRat| = x.natAbs := by
  rw [abs_toRat, natAbs]
  split
  · rename_i hpower
    rw [Nat.cast_mul, cast_twoTo, ← zpow_natCast, Int.toNat_of_nonneg hpower]
  · rename_i hpower
    have hdvd : twoTo (-x.power).toNat ∣ x.significand := by
      rw [isIntegral, decide_eq_false hpower, Bool.false_or, beq_iff_eq] at h
      exact Nat.dvd_of_mod_eq_zero h
    have hne : (twoTo (-x.power).toNat : ℚ) ≠ 0 := by exact_mod_cast (twoTo_pos _).ne'
    have htoNat : x.power.toNat = 0 := Int.toNat_of_nonpos (not_le.mp hpower).le
    rw [Nat.cast_div hdvd hne, cast_twoTo, Decimal.zpow_eq_div (by norm_num) x.power, htoNat,
      pow_zero, one_div, div_eq_mul_inv]

theorem toRat_of_isIntegral (h : x.isIntegral = true) :
    x.toRat = Decimal.signOf x.negative * x.natAbs := by
  rw [← abs_toRat_of_isIntegral h, abs_toRat, toRat]

theorem isIntegral_iff : x.isIntegral = true ↔ ∃ k : ℤ, x.toRat = k := by
  constructor
  · intro h
    rw [toRat_of_isIntegral h]
    cases x.negative with
    | true => exact ⟨-x.natAbs, by simp [Decimal.signOf]⟩
    | false => exact ⟨x.natAbs, by simp [Decimal.signOf]⟩
  · rintro ⟨k, hk⟩
    rw [isIntegral, Bool.or_eq_true, decide_eq_true_eq, beq_iff_eq]
    rcases Int.lt_or_le x.power 0 with hpower | hpower
    · have hne : (2 : ℚ) ^ (-x.power).toNat ≠ 0 := by positivity
      have htoNat : x.power.toNat = 0 := Int.toNat_of_nonpos hpower.le
      have habs : (x.significand / 2 ^ (-x.power).toNat : ℚ) = k.natAbs := by
        rw [Nat.cast_natAbs, Int.cast_abs, ← hk, abs_toRat, Decimal.zpow_eq_div (by norm_num) x.power,
          htoNat, pow_zero, one_div, div_eq_mul_inv]
      have hmul : x.significand = k.natAbs * twoTo (-x.power).toNat := by
        rw [div_eq_iff hne, ← cast_twoTo] at habs
        exact_mod_cast habs
      exact .inr (Nat.mod_eq_zero_of_dvd ⟨k.natAbs, hmul.trans (Nat.mul_comm _ _)⟩)
    · exact .inl hpower

end Double

namespace Number

open Decimal (Plain)

variable {x : Double}

theorem cast_units_plainUpTo : (Double.units plainUpTo : ℚ) = 10 ^ 21 * 2 ^ 1074 := by
  have hunits : Double.units plainUpTo = 10 ^ 21 * 2 ^ 1074 := by decide +kernel
  rw [hunits, Nat.cast_mul, Nat.cast_pow, Nat.cast_pow, Nat.cast_ofNat, Nat.cast_ofNat]

/-- Of ordinary size are the doubles from the one nearest to `10 ^ -7` up to `10 ^ 21`. -/
theorem isOrdinary_iff : isOrdinary x = true ↔
    (Double.ofDecimal false 1 (-7)).toRat ≤ |x.toRat| ∧ |x.toRat| < 10 ^ 21 := by
  have hsign : (Double.ofDecimal false 1 (-7)).negative = false := by decide +kernel
  have hscale : (0 : ℚ) < 2 ^ 1074 := by positivity
  rw [isOrdinary, Bool.and_eq_true, decide_eq_true_eq, decide_eq_true_eq,
    ← Double.abs_toRat_of_not_negative hsign, Double.abs_toRat_le_iff, magnitude_plainFrom,
    ← mul_lt_mul_iff_of_pos_right hscale, Double.abs_toRat_scaled, ← cast_units_plainUpTo,
    Nat.cast_lt, Double.strictMono_units.lt_iff_lt]

/-- The numbers that are written out, with what they stand for: integers, and doubles that are zero or
of ordinary size. -/
inductive IsWrittenOut : Number → ℚ → Prop where
  | int (n : Int) : IsWrittenOut (.int n) n
  | float {x : Double} (hfinite : x.isFinite = true)
      (hsize : x.toRat = 0 ∨
        (Double.ofDecimal false 1 (-7)).toRat ≤ |x.toRat| ∧ |x.toRat| < 10 ^ 21) :
      IsWrittenOut (.float x) x.toRat

/-- The literal of a number that stands for `v` is the plain numeral. -/
structure Writes (n : Number) (v : ℚ) (p : Plain) : Prop where
  literal_eq : n.literal.toList = p.chars
  negative_iff : p.negative = true ↔ v < 0
  /-- A whole number is written without a point, and exactly. -/
  whole : (∃ k : ℤ, v = k) → p.part = [] ∧ p.toRat = v
  /-- Another number is a double, of which the literal says what its natural text says. -/
  fraction : (¬ ∃ k : ℤ, v = k) → ∃ x d, n = .float x ∧ Decimal.ofText? x.text = some d ∧
    d.toRat? = some p.toRat

theorem toList_literal (n : Number) : n.literal.toList = n.literalChars := String.toList_ofList

theorem exists_writes_int (n : Int) : ∃ p : Plain, (Number.int n).Writes n p := by
  obtain ⟨p, hchars, hnegative, hpart, hvalue⟩ := Decimal.exists_whole (decide (n < 0)) n.natAbs
  have hliteral : Decimal.signedDigits n = p.chars := by
    rw [hchars, Decimal.signedDigits, Decimal.signed]
    simp only [decide_eq_true_eq]
  have htoRat : p.toRat = n := by
    rw [hvalue, Decimal.signOf, Nat.cast_natAbs, Int.cast_abs]
    rcases lt_or_ge n 0 with hneg | hpos
    · have hneg' : (n : ℚ) < 0 := by exact_mod_cast hneg
      rw [if_pos (decide_eq_true hneg), abs_of_neg hneg']
      ring
    · have hpos' : (0 : ℚ) ≤ n := by exact_mod_cast hpos
      rw [if_neg (by simpa using hpos), abs_of_nonneg hpos', one_mul]
  refine ⟨p, (toList_literal _).trans hliteral, ?_, fun _ => ⟨hpart, htoRat⟩, ?_⟩
  · rw [hnegative, decide_eq_true_eq, Int.cast_lt_zero]
  · intro hnot
    exact absurd ⟨n, rfl⟩ hnot

/-! ### Doubles -/

theorem floatLiteral_of_zero (h : x.toRat = 0) : floatLiteral x = ['0'] :=
  if_pos (Double.isZero_iff.mpr (Double.toRat_eq_zero_iff.mp h))

theorem floatLiteral_of_isOrdinary (hne : x.toRat ≠ 0) (hsize : isOrdinary x = true) :
    floatLiteral x = Decimal.signed x.negative (if x.isIntegral then Decimal.digits x.natAbs
      else Decimal.placed x.shortestDigits.1 x.shortestDigits.2) := by
  have hnot : ¬ x.isZero = true :=
    mt Double.isZero_iff.mp (mt Double.toRat_eq_zero_iff.mpr hne)
  rw [floatLiteral, if_neg hnot, if_pos hsize]

/-- The literal of a double that is not zero: of a whole one it denotes the double, of another one the
shortest decimal. -/
structure SaysFloat (x : Double) (p : Plain) : Prop where
  chars_eq : floatLiteral x = p.chars
  negative_eq : p.negative = x.negative
  whole : x.isIntegral = true → p.part = [] ∧ p.toRat = x.toRat
  fraction : x.isIntegral = false →
    p.toRat = Decimal.finiteValue x.negative x.shortest.1 x.shortest.2

theorem exists_saysFloat (hne : x.toRat ≠ 0) (hsize : isOrdinary x = true) :
    ∃ p : Plain, SaysFloat x p := by
  have hliteral := floatLiteral_of_isOrdinary hne hsize
  rcases Bool.eq_false_or_eq_true x.isIntegral with hwhole | hfraction
  · obtain ⟨p, hchars, hnegative, hpart, hvalue⟩ := Decimal.exists_whole x.negative x.natAbs
    rw [if_pos hwhole, ← hchars] at hliteral
    refine ⟨p, hliteral, hnegative, fun _ => ⟨hpart, ?_⟩, fun hnot => ?_⟩
    · rw [hvalue, Double.toRat_of_isIntegral hwhole]
    · rw [hwhole] at hnot
      cases hnot
  · obtain ⟨p, hp⟩ := Decimal.exists_places x.negative
      (.inl (Double.shortest_ne_zero (mt Double.toRat_eq_zero_iff.mpr hne)))
    rw [if_neg (Bool.eq_false_iff.mp hfraction)] at hliteral
    refine ⟨p, hliteral.trans hp.chars_eq.symm, hp.negative_eq, fun hwhole => ?_, fun _ => hp.toRat_eq⟩
    rw [hfraction] at hwhole
    cases hwhole

/-- What the literal denotes rounds to the place of the double. -/
theorem SaysFloat.rounds {p : Plain} (h : SaysFloat x p) :
    Double.Rounds (p.coefficient * 10 ^ p.exponent * 2 ^ 1074) x.magnitude := by
  rw [← Decimal.abs_finiteValue p.negative, ← p.toRat_eq]
  rcases Bool.eq_false_or_eq_true x.isIntegral with hwhole | hfraction
  · rw [(h.whole hwhole).2, Double.abs_toRat_scaled]
    exact Double.rounds_units x.magnitude
  · rw [h.fraction hfraction, Decimal.abs_finiteValue]
    exact x.rounds_shortest

theorem SaysFloat.writes {p : Plain} (h : SaysFloat x p) (hfinite : x.isFinite = true)
    (hne : x.toRat ≠ 0) : (Number.float x).Writes x.toRat p where
  literal_eq := (toList_literal _).trans h.chars_eq
  negative_iff := by rw [h.negative_eq, Double.toRat_neg_iff hne]
  whole hk := h.whole (Double.isIntegral_iff.mpr hk)
  fraction hk := by
    obtain ⟨c, e, hread, hvalue⟩ :=
      Double.exists_read_of_chars hfinite (mt Double.toRat_eq_zero_iff.mpr hne)
    refine ⟨x, _, rfl, (congrArg Decimal.ofChars? String.toList_ofList).trans hread, ?_⟩
    rw [h.fraction (Bool.eq_false_of_not_eq_true (mt Double.isIntegral_iff.mp hk)), Decimal.toRat?,
      Decimal.finiteValue, Decimal.finiteValue, hvalue]

/-- Zero is written without its sign. -/
theorem exists_writes_zero (h : x.toRat = 0) : ∃ p : Plain, (Number.float x).Writes x.toRat p := by
  obtain ⟨p, hchars, hnegative, hpart, hvalue⟩ := Decimal.exists_whole false 0
  rw [Nat.cast_zero, mul_zero] at hvalue
  have hliteral : floatLiteral x = p.chars := (floatLiteral_of_zero h).trans hchars.symm
  refine ⟨p, (toList_literal _).trans hliteral, ?_, fun _ => ⟨hpart, hvalue.trans h.symm⟩, ?_⟩
  · rw [hnegative, h]
    simp
  · intro hnot
    exact absurd ⟨0, h.trans Int.cast_zero.symm⟩ hnot

theorem exists_writes {n : Number} {v : ℚ} (h : n.IsWrittenOut v) : ∃ p : Plain, n.Writes v p := by
  cases h with
  | int n => exact exists_writes_int n
  | @float x hfinite hsize =>
    rcases eq_or_ne x.toRat 0 with hzero | hne
    · exact exists_writes_zero hzero
    · obtain ⟨p, hp⟩ := exists_saysFloat hne (isOrdinary_iff.mpr (hsize.resolve_left hne))
      exact ⟨p, hp.writes hfinite hne⟩

/-- The literal of a double is read as the double, and as the positive zero for either zero. -/
theorem ofText?_literal {v : ℚ} (h : IsWrittenOut (.float x) v) :
    Double.ofText? (literal (.float x)) =
      some (if v = 0 then Double.ofMagnitude false 0 else x) := by
  cases h with
  | float hfinite hsize =>
    rcases eq_or_ne x.toRat 0 with hzero | hne
    · have hliteral : literal (.float x) = "0" := by
        rw [literal, literalChars, floatLiteral_of_zero hzero]
      rw [if_pos hzero, hliteral]
      decide +kernel
    · obtain ⟨p, hp⟩ := exists_saysFloat hne (isOrdinary_iff.mpr (hsize.resolve_left hne))
      rw [if_neg hne]
      refine Double.ofText?_of_rounds hfinite ?_ hp.rounds
      rw [toList_literal, ← hp.negative_eq, ← p.ofChars?_chars, ← hp.chars_eq]
      rfl

theorem IsWrittenOut.value_eq {v : ℚ} (h : IsWrittenOut (.float x) v) : v = x.toRat := by
  cases h
  rfl

/-- Only the two zeros share a literal. -/
theorem eq_of_literal {y : Double} {v w : ℚ} (hx : IsWrittenOut (.float x) v)
    (hy : IsWrittenOut (.float y) w) (h : literal (.float y) = literal (.float x)) :
    y = x ∨ v = 0 ∧ w = 0 := by
  have hread := Option.some.inj (((ofText?_literal hy).symm.trans (congrArg _ h)).trans
    (ofText?_literal hx))
  have hzero : (Double.ofMagnitude false 0).toRat = 0 := Double.toRat_eq_zero_iff.mpr rfl
  obtain rfl := hx.value_eq
  obtain rfl := hy.value_eq
  rcases eq_or_ne x.toRat 0 with hv | hv
  · refine .inr ⟨hv, ?_⟩
    by_contra hw
    rw [if_pos hv, if_neg hw] at hread
    exact hw (hread ▸ hzero)
  · rw [if_neg hv] at hread
    split at hread
    · exact absurd (hread ▸ hzero) hv
    · exact .inl hread

/-- An integer, or a double that is zero or of ordinary size, is written as a plain numeral with a
minus sign exactly if it is negative: a whole number exactly and without a point, another one as its
natural text has it. That text reads back, and doubles that are not both zero differ in their
literals. -/
theorem literal_of_isWrittenOut {n : Number} {v : ℚ} (h : n.IsWrittenOut v) :
    (∃ p : Plain, n.Writes v p) ∧
      ∀ x, n = .float x → Double.ofText? x.text = some x ∧
        ∀ y w, IsWrittenOut (.float y) w → literal (.float y) = n.literal →
          y = x ∨ v = 0 ∧ w = 0 := by
  refine ⟨exists_writes h, ?_⟩
  rintro x rfl
  have hfinite : x.isFinite = true := by
    cases h
    assumption
  exact ⟨Double.ofText?_text hfinite, fun y w hy heq => eq_of_literal h hy heq⟩

/-- The double nearest to a hundred-thousandth, which has an exponent in its natural text. -/
def hundredThousandth : Double := Double.ofDecimal false 1 (-5)

theorem literal_of_hundredThousandth :
    hundredThousandth.text = "1e-05" ∧
      literal (.float hundredThousandth) = "0.00001" ∧
      IsWrittenOut (.float hundredThousandth) hundredThousandth.toRat ∧
      (∃ p : Plain, (Number.float hundredThousandth).Writes hundredThousandth.toRat p) ∧
      ∀ y w, IsWrittenOut (.float y) w →
        literal (.float y) = literal (.float hundredThousandth) →
        y = hundredThousandth ∨ hundredThousandth.toRat = 0 ∧ w = 0 := by
  have hsize : isOrdinary hundredThousandth = true := by decide +kernel
  have hwritten : IsWrittenOut (.float hundredThousandth) hundredThousandth.toRat :=
    .float (by decide +kernel) (.inr (isOrdinary_iff.mp hsize))
  obtain ⟨hwrites, hdistinct⟩ := literal_of_isWrittenOut hwritten
  exact ⟨by decide +kernel, by decide +kernel, hwritten, hwrites, (hdistinct _ rfl).2⟩

end Number

end RequestSql
