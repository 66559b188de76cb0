import RequestSql.Proofs.Decimal.Numeral
import RequestSql.Proofs.Decimal.Shortest

/-!
# Reading the natural text of a double

The natural text of a finite double denotes its shortest decimal, in whichever notation it is written,
and reading the text gives the double back.
-/

namespace RequestSql

/-- A whole numeral denotes the same with a point and a zero behind it. -/
theorem Decimal.Plain.exists_pointed {p : Plain} (h : p.part = []) :
    ∃ q : Plain, q.chars = p.chars ++ ['.', '0'] ∧ q.negative = p.negative ∧ q.toRat = p.toRat := by
  let q : Plain := {
    negative := p.negative
    whole := p.whole
    part := ['0']
    whole_ne := p.whole_ne
    isDigit := fun x hx => by
      rcases List.mem_append.mp hx with hx | hx
      · exact p.isDigit_whole x hx
      · rw [List.mem_singleton.mp hx]
        rfl
    no_leading_zero := p.no_leading_zero }
  refine ⟨q, ?_, rfl, ?_⟩
  · have hunsigned : q.unsigned = p.unsigned ++ ['.', '0'] := by
      rw [unsigned, unsigned, if_pos h, List.append_nil]
      rfl
    change signed p.negative q.unsigned = signed p.negative p.unsigned ++ _
    rw [hunsigned]
    cases p.negative with
    | true => rfl
    | false => rfl
  · have hcoefficient : q.coefficient = p.coefficient * 10 := by
      rw [coefficient, coefficient, h, List.append_nil]
      exact ofDigits_append p.whole ['0']
    change signOf p.negative * (q.coefficient / 10 ^ 1) = p.toRat
    rw [toRat, hcoefficient, h]
    push_cast
    simp

namespace Double

open Decimal (signed digits placed exponential ofChars? finiteValue)

variable {x : Double}

theorem isNaN_of_isFinite (h : x.isFinite = true) : x.isNaN = false := by
  have hlt : x.exponent.val < 2047 := by simpa [isFinite] using h
  rw [isNaN, beq_false_of_ne (by omega), Bool.false_and]

theorem isZero_iff : x.isZero = true ↔ x.magnitude = 0 := beq_iff_eq

/-- The natural text of a double other than zero writes its shortest decimal. -/
theorem chars_eq (hfinite : x.isFinite = true) (hzero : x.magnitude ≠ 0) :
    x.chars = signed x.negative (
      let ds := digits x.shortest.1
      let point := x.shortest.2 + ds.length
      if -4 < point ∧ point ≤ 16 then
        if ds.length ≤ point.toNat then placed ds point ++ ['.', '0'] else placed ds point
      else exponential 'e' 2 ds (point - 1)) := by
  have hnot : x.isZero = false := Bool.eq_false_of_not_eq_true (mt isZero_iff.mp hzero)
  rw [chars, isNaN_of_isFinite hfinite, hfinite, hnot]
  rfl

theorem signed_append (negative : Bool) (as bs : List Char) :
    signed negative (as ++ bs) = signed negative as ++ bs := by
  cases negative <;> rfl

/-- A plain numeral of the value is read as a decimal of the value. -/
theorem exists_read_of_plain {p : Decimal.Plain} {c : Nat} {e : Int}
    (h : p.toRat = finiteValue p.negative c e) : ∃ c' e',
    ofChars? p.chars = some (.finite p.negative c' e') ∧ (c' * 10 ^ e' : ℚ) = c * 10 ^ e := by
  refine ⟨p.coefficient, p.exponent, p.ofChars?_chars, ?_⟩
  rw [p.toRat_eq] at h
  rw [← Decimal.abs_finiteValue p.negative, h, Decimal.abs_finiteValue]

/-- The natural text of a double other than zero is read as a decimal with the value of the shortest
one. -/
theorem exists_read_of_chars (hfinite : x.isFinite = true) (hzero : x.magnitude ≠ 0) : ∃ c e,
    ofChars? x.chars = some (.finite x.negative c e) ∧
      (c * 10 ^ e : ℚ) = x.shortest.1 * 10 ^ x.shortest.2 := by
  obtain ⟨p, hp⟩ := Decimal.exists_places x.negative (.inl (shortest_ne_zero hzero))
  have hread {q : Decimal.Plain} (hnegative : q.negative = p.negative) (hvalue : q.toRat = p.toRat) :=
    exists_read_of_plain (p := q) (c := x.shortest.1) (e := x.shortest.2) (by
      rw [hvalue, hp.toRat_eq, hnegative, hp.negative_eq])
  rw [chars_eq hfinite hzero]
  simp only
  split
  · split
    · rename_i hwhole
      have hlen := List.length_pos_iff.mpr (Decimal.digits_ne_nil x.shortest.1)
      have hpart : p.part = [] := hp.part_eq_nil_iff.mpr (by omega)
      obtain ⟨q, hchars, hnegative, hvalue⟩ := p.exists_pointed hpart
      rw [signed_append, ← hp.chars_eq, ← hchars, ← hp.negative_eq, ← hnegative]
      exact hread hnegative hvalue
    · rw [← hp.chars_eq, ← hp.negative_eq]
      exact hread rfl rfl
  · refine ⟨x.shortest.1, x.shortest.2, ?_, rfl⟩
    rw [Decimal.ofChars?_exponential x.negative (.inl rfl) 2 (Decimal.digits_ne_nil _)
      fun c hc => Decimal.isDigit_of_mem_digits hc, Decimal.ofDigits_digits]
    congr 2
    omega

theorem ofText?_of_rounds {s : String} {c : Nat} {e : Int} (hfinite : x.isFinite = true)
    (hread : ofChars? s.toList = some (.finite x.negative c e))
    (hrounds : Rounds (c * 10 ^ e * 2 ^ 1074) x.magnitude) : ofText? s = some x := by
  rw [ofText?, Decimal.ofText?, hread, Option.bind_some, ofDatum?, ofDecimal_of_rounds hfinite hrounds]

/-- Reading the natural text of a finite double gives the double. -/
theorem ofText?_text (h : x.isFinite = true) : ofText? x.text = some x := by
  have htext : x.text.toList = x.chars := String.toList_ofList
  rcases eq_or_ne x.magnitude 0 with hzero | hzero
  · have hchars : x.chars = signed x.negative "0.0".toList := by
      rw [chars, isNaN_of_isFinite h, h, isZero_iff.mpr hzero]
      rfl
    have hread : ofChars? (signed x.negative "0.0".toList) = some (.finite x.negative 0 (-1)) := by
      cases x.negative <;> rfl
    refine ofText?_of_rounds h (htext ▸ hchars ▸ hread) ?_
    rw [hzero]
    simpa using rounds_units 0
  · obtain ⟨c, e, hread, hvalue⟩ := exists_read_of_chars h hzero
    exact ofText?_of_rounds h (htext ▸ hread) (hvalue ▸ x.rounds_shortest)

end Double

end RequestSql
