import Mathlib.Algebra.Order.Field.Power
import Mathlib.Algebra.Order.Field.Rat
import Mathlib.Tactic.FieldSimp
import Mathlib.Tactic.Linarith
import Mathlib.Tactic.Ring
import RequestSql.Proofs.Decimal.Digits
import RequestSql.Proofs.Text.Word

/-!
# Plain decimal numerals

A plain numeral is a run of digits without a superfluous zero in front, with a point and more digits
behind it if there is a fraction, and with a minus sign or none. It has no exponent. What it denotes is
told by its digits and the place of its point. Digits with a point set among them are plain, be the
point before, among or behind them.
-/

namespace RequestSql.Decimal

theorem zpow_eq_div {b : ℚ} (hb : b ≠ 0) (e : Int) : b ^ e = b ^ e.toNat / b ^ (-e).toNat := by
  rw [← zpow_natCast, ← zpow_natCast, ← zpow_sub₀ hb, Int.toNat_sub_toNat_neg]

/-- A number lies between the powers of ten on either side of its first digit. -/
theorem digits_bounds {c : Nat} (hc : c ≠ 0) (e : Int) :
    (10 : ℚ) ^ (e + (digits c).length - 1) ≤ c * 10 ^ e ∧
      c * 10 ^ e < (10 : ℚ) ^ (e + (digits c).length) := by
  obtain ⟨n, hn⟩ := Nat.exists_eq_succ_of_ne_zero (List.length_pos_iff.mpr (digits_ne_nil c)).ne'
  have hlow : 10 ^ n ≤ c := by
    rcases Nat.eq_zero_or_pos n with rfl | hpos
    · exact Nat.one_le_iff_ne_zero.mpr hc
    · by_contra hlt
      have hlen := (Nat.length_toDigits_le_iff (by decide) hpos).mpr (Nat.not_le.mp hlt)
      change (digits c).length ≤ n at hlen
      omega
  have hhigh : c < 10 ^ (n + 1) :=
    (Nat.length_toDigits_le_iff (by decide) n.succ_pos).mp hn.le
  have hpow : (0 : ℚ) < 10 ^ e := by positivity
  rw [hn]
  constructor
  · have hexponent : e + (n.succ : Nat) - 1 = n + e := by omega
    rw [hexponent, zpow_add₀ (by norm_num), zpow_natCast]
    exact mul_le_mul_of_nonneg_right (by exact_mod_cast hlow) hpow.le
  · have hexponent : e + (n.succ : Nat) = (n + 1 : Nat) + e := by omega
    rw [hexponent, zpow_add₀ (by norm_num), zpow_natCast]
    exact mul_lt_mul_of_pos_right (by exact_mod_cast hhigh) hpow

/-- Minus one for a negative number, and one for others. -/
def signOf (negative : Bool) : ℚ := if negative then -1 else 1

theorem abs_signOf (negative : Bool) : |signOf negative| = 1 := by
  cases negative <;> simp [signOf]

/-- What a coefficient and an exponent denote. -/
def finiteValue (negative : Bool) (coefficient : Nat) (exponent : Int) : ℚ :=
  signOf negative * (coefficient * 10 ^ exponent)

theorem abs_finiteValue (negative : Bool) (c : Nat) (e : Int) :
    |finiteValue negative c e| = c * 10 ^ e := by
  rw [finiteValue, abs_mul, abs_signOf, one_mul, abs_of_nonneg (by positivity)]

/-- The number that a datum denotes, if it is finite. -/
def toRat? : Decimal → Option ℚ
  | .finite negative c e => some (finiteValue negative c e)
  | _ => none

/-- A decimal numeral without an exponent: digits, and more digits behind a point if there are any. -/
structure Plain where
  negative : Bool
  whole : List Char
  part : List Char
  whole_ne : whole ≠ []
  isDigit : ∀ c ∈ whole ++ part, c.isDigit = true
  no_leading_zero : whole.head? = some '0' → whole = ['0']

namespace Plain

/-- The numeral without its sign. -/
def unsigned (p : Plain) : List Char := p.whole ++ if p.part = [] then [] else '.' :: p.part

def chars (p : Plain) : List Char := signed p.negative p.unsigned

def coefficient (p : Plain) : Nat := ofDigits (p.whole ++ p.part)

/-- The place of the last digit. -/
def exponent (p : Plain) : Int := -p.part.length

def toRat (p : Plain) : ℚ := signOf p.negative * (p.coefficient / 10 ^ p.part.length)

theorem toRat_eq (p : Plain) : p.toRat = finiteValue p.negative p.coefficient p.exponent := by
  rw [toRat, finiteValue, exponent, zpow_neg, zpow_natCast, div_eq_mul_inv]

theorem isDigit_whole (p : Plain) : ∀ c ∈ p.whole, c.isDigit = true :=
  fun c hc => p.isDigit c (List.mem_append_left _ hc)

theorem isDigit_part (p : Plain) : ∀ c ∈ p.part, c.isDigit = true :=
  fun c hc => p.isDigit c (List.mem_append_right _ hc)

theorem mem_unsigned {p : Plain} {c : Char} (h : c ∈ p.unsigned) : c.isDigit = true ∨ c = '.' := by
  rcases List.mem_append.mp h with h | h
  · exact .inl (p.isDigit_whole c h)
  · split at h
    · exact absurd h List.not_mem_nil
    · rcases List.mem_cons.mp h with h | h
      · exact .inr h
      · exact .inl (p.isDigit_part c h)

theorem mem_chars {p : Plain} {c : Char} (h : c ∈ p.chars) :
    c.isDigit = true ∨ c = '.' ∨ c = '-' := by
  rw [chars, signed] at h
  split at h
  · rcases List.mem_cons.mp h with rfl | h
    · exact .inr (.inr rfl)
    · exact (mem_unsigned h).imp_right .inl
  · exact (mem_unsigned h).imp_right .inl

theorem isWord_unsigned (p : Plain) : Text.IsWord p.unsigned := by
  refine ⟨List.append_ne_nil_of_left_ne_nil p.whole_ne _, fun c hc => ?_⟩
  rcases mem_unsigned hc with hc | rfl
  · exact Text.isWordChar_of_isDigit hc
  · rfl

theorem unsigned_head_isDigit (p : Plain) : ∀ c ∈ p.unsigned.head?, c.isDigit = true := by
  intro c hc
  rw [unsigned, List.head?_append_of_ne_nil _ p.whole_ne] at hc
  exact p.isDigit_whole c (List.mem_of_mem_head? hc)

end Plain

/-- The numeral writes the digits of a coefficient with the point of its exponent among them. -/
structure Plain.Places (p : Plain) (negative : Bool) (c : Nat) (e : Int) : Prop where
  chars_eq : p.chars = signed negative (placed (digits c) (e + (digits c).length))
  negative_eq : p.negative = negative
  coefficient_eq : p.coefficient = c * 10 ^ e.toNat
  length_part : p.part.length = (-e).toNat

theorem isDigit_of_mem_zeros {n : Nat} {c : Char} (h : c ∈ List.replicate n '0') :
    c.isDigit = true := by
  rw [(List.mem_replicate.mp h).2]
  rfl

/-- The point before all digits. -/
theorem exists_places_before (negative : Bool) {c : Nat} {e : Int}
    (h : e + (digits c).length ≤ 0) : ∃ p : Plain, p.Places negative c e := by
  have hpos : 0 < (digits c).length := List.length_pos_iff.mpr (digits_ne_nil c)
  let zeros := List.replicate (-(e + (digits c).length)).toNat '0'
  let p : Plain := {
    negative
    whole := ['0']
    part := zeros ++ digits c
    whole_ne := List.cons_ne_nil _ _
    isDigit := fun x hx => by
      rcases List.mem_append.mp hx with hx | hx
      · rw [List.mem_singleton.mp hx]
        rfl
      rcases List.mem_append.mp hx with hx | hx
      · exact isDigit_of_mem_zeros hx
      · exact isDigit_of_mem_digits hx
    no_leading_zero := fun _ => rfl }
  have hpart : p.part ≠ [] := List.append_ne_nil_of_right_ne_nil _ (digits_ne_nil c)
  refine ⟨p, ?_, rfl, ?_, ?_⟩
  · rw [Plain.chars, Plain.unsigned, if_neg hpart, placed, if_pos h]
    rfl
  · have hexponent : e.toNat = 0 := by omega
    change ofDigits ('0' :: (zeros ++ digits c)) = _
    rw [ofDigits_zero_cons, ofDigits_append, ofDigits_zeros, ofDigits_digits, Nat.zero_mul,
      Nat.zero_add, hexponent, Nat.pow_zero, Nat.mul_one]
  · change (zeros ++ digits c).length = _
    rw [List.length_append, List.length_replicate]
    omega

/-- The point among the digits. -/
theorem exists_places_among (negative : Bool) {c : Nat} {e : Int}
    (hbefore : 0 < e + (digits c).length) (hfraction : e < 0) :
    ∃ p : Plain, p.Places negative c e := by
  obtain ⟨point, hpoint⟩ := Int.eq_ofNat_of_zero_le hbefore.le
  have hlt : point < (digits c).length := by omega
  let p : Plain := {
    negative
    whole := (digits c).take point
    part := (digits c).drop point
    whole_ne := fun hnil => by
      have hlen := congrArg List.length hnil
      rw [List.length_take, List.length_nil] at hlen
      omega
    isDigit := fun x hx => isDigit_of_mem_digits (by rwa [List.take_append_drop] at hx)
    no_leading_zero := fun hhead => by
      have hne : point ≠ 0 := by omega
      rw [List.head?_take, if_neg hne, head?_digits] at hhead
      have hlen : (digits c).length = 1 := by rw [hhead]; rfl
      omega }
  have hlen : p.part.length = (digits c).length - point := List.length_drop
  have hpart : p.part ≠ [] := List.length_pos_iff.mp (by omega)
  refine ⟨p, ?_, rfl, ?_, by omega⟩
  · rw [Plain.chars, Plain.unsigned, if_neg hpart, placed, hpoint, if_neg (by omega),
      if_neg (by omega)]
    rfl
  · have hexponent : e.toNat = 0 := by omega
    change ofDigits ((digits c).take point ++ (digits c).drop point) = _
    rw [List.take_append_drop, ofDigits_digits, hexponent, Nat.pow_zero, Nat.mul_one]

/-- No point, and zeros behind the digits. -/
theorem exists_places_behind (negative : Bool) {c : Nat} {e : Int} (hwhole : 0 ≤ e)
    (h : c ≠ 0 ∨ e = 0) : ∃ p : Plain, p.Places negative c e := by
  have hpos : 0 < (digits c).length := List.length_pos_iff.mpr (digits_ne_nil c)
  let p : Plain := {
    negative
    whole := digits c ++ List.replicate e.toNat '0'
    part := []
    whole_ne := List.append_ne_nil_of_left_ne_nil (digits_ne_nil c) _
    isDigit := fun x hx => by
      rw [List.append_nil] at hx
      rcases List.mem_append.mp hx with hx | hx
      · exact isDigit_of_mem_digits hx
      · exact isDigit_of_mem_zeros hx
    no_leading_zero := fun hhead => by
      rw [List.head?_append_of_ne_nil _ (digits_ne_nil c), head?_digits] at hhead
      rw [hhead, h.resolve_left (not_not_intro hhead)]
      rfl }
  refine ⟨p, ?_, rfl, ?_, ?_⟩
  · have hfill : (e + (digits c).length).toNat - (digits c).length = e.toNat := by omega
    rw [Plain.chars, Plain.unsigned, if_pos rfl, placed, if_neg (by omega), if_pos (by omega), hfill,
      List.append_nil]
  · change ofDigits (digits c ++ List.replicate e.toNat '0' ++ []) = _
    rw [List.append_nil, ofDigits_append, ofDigits_zeros, ofDigits_digits, List.length_replicate,
      Nat.add_zero]
  · change 0 = _
    omega

/-- The digits of a coefficient with the point set by its exponent are a plain numeral. Zero is not
filled up on the right. -/
theorem exists_places (negative : Bool) {c : Nat} {e : Int} (h : c ≠ 0 ∨ e ≤ 0) :
    ∃ p : Plain, p.Places negative c e := by
  rcases lt_or_ge e 0 with hfraction | hwhole
  · rcases lt_or_ge 0 (e + (digits c).length) with hamong | hbefore
    · exact exists_places_among negative hamong hfraction
    · exact exists_places_before negative hbefore
  · exact exists_places_behind negative hwhole (h.imp_right fun hle => le_antisymm hle hwhole)

namespace Plain.Places

variable {p : Plain} {negative : Bool} {c : Nat} {e : Int}

/-- The numeral denotes what the coefficient and the exponent denote. -/
theorem toRat_eq (h : p.Places negative c e) : p.toRat = finiteValue negative c e := by
  rw [Plain.toRat, finiteValue, h.negative_eq, h.coefficient_eq, h.length_part,
    zpow_eq_div (by norm_num) e]
  push_cast
  ring

theorem part_eq_nil_iff (h : p.Places negative c e) : p.part = [] ↔ 0 ≤ e := by
  rw [← List.length_eq_zero_iff, h.length_part]
  omega

end Plain.Places

/-- The digits of a whole number are a plain numeral without a point. -/
theorem exists_whole (negative : Bool) (c : Nat) : ∃ p : Plain,
    p.chars = signed negative (digits c) ∧ p.negative = negative ∧ p.part = [] ∧
      p.toRat = signOf negative * c := by
  obtain ⟨p, hp⟩ := exists_places negative (.inr le_rfl : c ≠ 0 ∨ (0 : Int) ≤ 0)
  have hpos : 0 < (digits c).length := List.length_pos_iff.mpr (digits_ne_nil c)
  have hplaced : placed (digits c) (0 + (digits c).length) = digits c := by
    rw [placed, if_neg (by omega), if_pos (by omega), zero_add, Int.toNat_natCast, Nat.sub_self]
    exact List.append_nil _
  refine ⟨p, ?_, hp.negative_eq, hp.part_eq_nil_iff.mpr le_rfl, ?_⟩
  · rw [hp.chars_eq, hplaced]
  · rw [hp.toRat_eq, finiteValue, zpow_zero, mul_one]

end RequestSql.Decimal
