import RequestSql.Proofs.Decimal.Numeral
import RequestSql.Dialect.Basic
import RequestSql.Value.Classify

/-!
# The text of decimal data

The text of a finite datum always denotes the datum, and reading it gives the datum back with its
exponent. It is no plain numeral, though, where the datum has a positive exponent, be it as small as
ten, and where more than five zeros would follow the point: there the exponent is written.
-/

namespace RequestSql.Decimal

variable {negative : Bool} {c : Nat} {e : Int}

/-- The exponent of the datum is not written. -/
def IsPositional (c : Nat) (e : Int) : Prop := e ≤ 0 ∧ -6 < e + (digits c).length

theorem finiteText_of_isPositional (h : IsPositional c e) :
    finiteText c e = placed (digits c) (e + (digits c).length) := if_pos h

theorem finiteText_of_not_isPositional (h : ¬ IsPositional c e) :
    finiteText c e = exponential 'E' 1 (digits c) (e + (digits c).length - 1) := if_neg h

theorem exists_plain_of_isPositional (negative : Bool) (h : IsPositional c e) :
    ∃ p : Plain, p.chars = (Decimal.finite negative c e).chars := by
  obtain ⟨p, hp⟩ := exists_places negative (.inr h.1 : c ≠ 0 ∨ e ≤ 0)
  refine ⟨p, ?_⟩
  rw [Decimal.chars, finiteText_of_isPositional h, hp.chars_eq]

/-- Reading the text of a datum gives the datum. -/
theorem ofChars?_finite (negative : Bool) (c : Nat) (e : Int) :
    ofChars? (Decimal.finite negative c e).chars = some (.finite negative c e) := by
  rw [Decimal.chars]
  by_cases h : IsPositional c e
  · obtain ⟨p, hp⟩ := exists_places negative (.inr h.1 : c ≠ 0 ∨ e ≤ 0)
    have hcoefficient : p.coefficient = c := by
      have hexponent : e.toNat = 0 := Int.toNat_of_nonpos h.1
      rw [hp.coefficient_eq, hexponent, Nat.pow_zero, Nat.mul_one]
    have hexponent : p.exponent = e := by
      have hle := h.1
      rw [Plain.exponent, hp.length_part]
      omega
    rw [finiteText_of_isPositional h, ← hp.chars_eq, p.ofChars?_chars, hp.negative_eq, hcoefficient,
      hexponent]
  · have hexponent : e + (digits c).length - 1 - ((digits c).length - 1) = e := by omega
    rw [finiteText_of_not_isPositional h, ofChars?_exponential negative (.inr rfl) 1 (digits_ne_nil c)
      fun x hx => isDigit_of_mem_digits hx, ofDigits_digits, hexponent]

theorem mark_mem_signed_exponential (negative : Bool) (mark : Char) (width : Nat) (ds : List Char)
    (exponent : Int) : mark ∈ signed negative (exponential mark width ds exponent) := by
  have hmem : mark ∈ exponential mark width ds exponent :=
    List.mem_append_right _ List.mem_cons_self
  cases negative with
  | true => exact List.mem_cons_of_mem _ hmem
  | false => exact hmem

/-- A text with an exponent is no plain numeral: it has a letter. -/
theorem isPositional_of_plain {p : Plain} (h : p.chars = (Decimal.finite negative c e).chars) :
    IsPositional c e := by
  by_contra hnot
  have hmem : 'E' ∈ (Decimal.finite negative c e).chars := by
    rw [Decimal.chars, finiteText_of_not_isPositional hnot]
    exact mark_mem_signed_exponential negative 'E' 1 _ _
  rw [← h] at hmem
  rcases Plain.mem_chars hmem with hdigit | hpoint | hminus
  · cases hdigit
  · exact absurd hpoint (by decide)
  · exact absurd hminus (by decide)

/-- The exponent is not written where it is not positive and the datum is a millionth or more, or a
zero with at most six places. -/
theorem isPositional_iff (negative : Bool) : IsPositional c e ↔
    e ≤ 0 ∧ ((c = 0 ∧ -6 ≤ e) ∨ (10 : ℚ) ^ (-6 : Int) ≤ |finiteValue negative c e|) := by
  refine and_congr_right fun _ => ?_
  rcases eq_or_ne c 0 with rfl | hc
  · have hlen : (digits 0).length = 1 := rfl
    have hzero : |finiteValue negative 0 e| = 0 := by
      rw [abs_finiteValue, Nat.cast_zero, zero_mul]
    have hno : ¬ (10 : ℚ) ^ (-6 : Int) ≤ 0 := not_le.mpr (by positivity)
    rw [hlen, hzero]
    simp only [true_and, hno, or_false]
    omega
  · obtain ⟨hlow, hhigh⟩ := digits_bounds hc e
    simp only [hc, false_and, false_or, abs_finiteValue]
    constructor
    · intro h
      exact (zpow_le_zpow_right₀ (by norm_num) (by omega)).trans hlow
    · intro h
      by_contra hle
      have hpow : (10 : ℚ) ^ (e + (digits c).length) ≤ 10 ^ (-6 : Int) :=
        zpow_le_zpow_right₀ (by norm_num) (by omega)
      exact absurd (h.trans_lt hhigh) (not_lt.mpr hpow)

/-- The literal of a finite datum reads back as the datum. It is a plain numeral, which denotes the
datum, exactly where the exponent of the datum is not positive and the datum is a millionth or more,
or a zero with at most six places. -/
theorem datum_literal (d : Dialect) (negative : Bool) (c : Nat) (e : Int) :
    ofText? (d.literal (.ofValue (.decimal (.finite negative c e)))) = some (.finite negative c e) ∧
      ((∃ p : Plain, p.chars = (d.literal (.ofValue (.decimal (.finite negative c e)))).toList) ↔
        e ≤ 0 ∧ ((c = 0 ∧ -6 ≤ e) ∨ (10 : ℚ) ^ (-6 : Int) ≤ |finiteValue negative c e|)) ∧
      ∀ p : Plain, p.chars = (d.literal (.ofValue (.decimal (.finite negative c e)))).toList →
        p.toRat = finiteValue negative c e := by
  have hliteral : (d.literal (.ofValue (.decimal (.finite negative c e)))).toList =
      (Decimal.finite negative c e).chars := String.toList_ofList
  have hread := ofChars?_finite negative c e
  rw [ofText?, hliteral, ← isPositional_iff]
  refine ⟨hread, ⟨fun ⟨p, hp⟩ => isPositional_of_plain hp, exists_plain_of_isPositional negative⟩, ?_⟩
  intro p hp
  rw [← hp] at hread
  exact (Option.some.inj (p.toRat_of_ofChars? hread)).symm

/-- A hundred thousand whose coefficient is one is not written as the integer and the double of that
value are. -/
theorem exponent_of_round_datum :
    ∃ d x, d = Decimal.finite false 1 5 ∧ d.toRat? = some 100000 ∧
      Double.ofText? "100000.0" = some x ∧
      Dialect.mysql.literal (.ofValue (.decimal d)) = "1E+5" ∧
      Dialect.mysql.literal (.ofValue (.float x)) = "100000" ∧
      Dialect.mysql.literal (.ofValue (.int 100000)) = "100000" ∧
      ¬ ∃ p : Plain, p.chars = (Dialect.mysql.literal (.ofValue (.decimal d))).toList := by
  have hx : Double.ofText? "100000.0" = some ⟨false, 1039, 2368348046229504⟩ := by decide +kernel
  refine ⟨_, _, rfl, ?_, hx, by decide +kernel, by decide +kernel, by decide +kernel, ?_⟩
  · rw [toRat?, finiteValue, signOf]
    norm_num
  · rintro ⟨p, hp⟩
    have hliteral : (Dialect.mysql.literal (.ofValue (.decimal (.finite false 1 5)))).toList =
      (Decimal.finite false 1 5).chars := String.toList_ofList
    exact absurd (isPositional_of_plain (hp.trans hliteral)).1 (by decide)

end RequestSql.Decimal
