import RequestSql.Proofs.Decimal.Plain

/-!
# Numerals that are read back

The reader of numerals gives back what was written: a plain numeral, digits with an exponent behind
them, and the text of every finite datum, of which even the exponent comes back. So two data have one
text only if they are the same datum, and whatever plain numeral a text is, it denotes what the datum
does.
-/

namespace RequestSql

namespace Text

theorem isWordChar_toNat {c : Char} (h : isWordChar c = true) :
    43 ≤ c.toNat ∧ c.toNat ≤ 122 ∧ c.toNat ≠ 95 := by
  unfold isWordChar at h
  delta Char.isAlphanum Char.isAlpha Char.isUpper Char.isLower Char.isDigit at h
  simp only [Bool.or_eq_true, Bool.and_eq_true, decide_eq_true_eq, beq_iff_eq, ge_iff_le,
    UInt32.le_iff_toNat_le] at h
  change (((((65 ≤ c.toNat ∧ c.toNat ≤ 90) ∨ (97 ≤ c.toNat ∧ c.toNat ≤ 122)) ∨
    (48 ≤ c.toNat ∧ c.toNat ≤ 57)) ∨ c = '+') ∨ c = '.') ∨ c = '-' at h
  rcases h with ((h | rfl) | rfl) | rfl
  · omega
  · decide
  · decide
  · decide

theorem isSpacing_of_isWordChar {c : Char} (h : isWordChar c = true) : isSpacing c = false := by
  obtain ⟨hlow, hhigh, -⟩ := isWordChar_toNat h
  simp only [isSpacing, isBlank, Bool.or_eq_false_iff, Bool.and_eq_false_iff, decide_eq_false_iff_not,
    beq_eq_false_iff_ne]
  omega

theorem dropWhile_of_all {p : Char → Bool} {cs : List Char} (h : ∀ c ∈ cs, p c = false) :
    cs.dropWhile p = cs := by
  cases cs with
  | nil => rfl
  | cons c cs => simp [h c List.mem_cons_self]

/-- Nothing is trimmed from a word. -/
theorem IsWord.trim {cs : List Char} (h : IsWord cs) : Text.trim isSpacing cs = cs := by
  have hspacing (c : Char) (hc : c ∈ cs) : isSpacing c = false := isSpacing_of_isWordChar (h.all c hc)
  rw [Text.trim, dropTrailing, dropWhile_of_all hspacing,
    dropWhile_of_all fun c hc => hspacing c (List.mem_reverse.mp hc), List.reverse_reverse]

theorem IsWord.filter {cs : List Char} (h : IsWord cs) : cs.filter (· ≠ '_') = cs := by
  refine List.filter_eq_self.mpr fun c hc => decide_eq_true ?_
  rintro rfl
  exact (isWordChar_toNat (h.all _ hc)).2.2 rfl

end Text

namespace Decimal

open Text (IsWord)

theorem toLower_of_isDigit {c : Char} (h : c.isDigit = true) : c.toLower = c := by
  have hc := (Char.isDigit_iff_toNat.mp h).2
  unfold Char.toLower
  rw [dif_neg]
  rintro ⟨hA, -⟩
  have hA : 65 ≤ c.toNat := hA
  exact absurd (hA.trans hc) (by decide)

theorem ne_of_isDigit {c x : Char} (h : c.isDigit = true) (hx : x.isDigit = false) : c ≠ x := by
  rintro rfl
  rw [h] at hx
  cases hx

theorem spanSign_signed (negative : Bool) {c : Char} (rest : List Char) (hc : c.isDigit = true) :
    spanSign (signed negative (c :: rest)) = (negative, c :: rest) := by
  cases negative with
  | true => rfl
  | false =>
    unfold signed spanSign
    split
    · rename_i heq
      exact absurd (List.cons.inj heq).1 (ne_of_isDigit hc rfl)
    · rename_i heq
      exact absurd (List.cons.inj heq).1 (ne_of_isDigit hc rfl)
    · rfl

/-- A word that starts with a digit is read as a number, with the sign before it. -/
theorem ofChars?_signed (negative : Bool) {cs : List Char} (hword : IsWord cs)
    (hhead : ∀ c ∈ cs.head?, c.isDigit = true) : ofChars? (signed negative cs) =
      (unsignedNumeral? cs).map fun n => .finite negative n.1 n.2 := by
  have hsigned := isWord_signed negative hword
  obtain ⟨c, rest, rfl⟩ := List.exists_cons_of_ne_nil hword.ne_nil
  have hc : c.isDigit = true := hhead c rfl
  have hinfinity {w : List Char} (hw : w.head? = some 'i') : c :: rest.map Char.toLower ≠ w := by
    rintro rfl
    exact ne_of_isDigit hc rfl (Option.some.inj hw)
  unfold ofChars?
  simp only [hsigned.trim, hsigned.filter, spanSign_signed negative rest hc, List.map_cons,
    toLower_of_isDigit hc, hinfinity (w := "inf".toList) rfl, hinfinity (w := "infinity".toList) rfl,
    or_self, if_false]
  split
  · rename_i heq
    exact absurd (List.cons.inj heq).1 (ne_of_isDigit hc rfl)
  · rename_i heq
    exact absurd (List.cons.inj heq).1 (ne_of_isDigit hc rfl)
  · rfl

namespace Plain

variable {p : Plain} {tail : List Char}

/-- The first run of digits ends before the point, or before what follows if there is none. -/
theorem spanDigits_unsigned (p : Plain) (h : ∀ c ∈ tail.head?, c.isDigit = false) :
    spanDigits (p.unsigned ++ tail) =
      (p.whole, (if p.part = [] then [] else '.' :: p.part) ++ tail) := by
  rw [unsigned, List.append_assoc]
  refine spanDigits_append p.isDigit_whole ?_
  split
  · exact h
  · rintro c ⟨⟩
    rfl

theorem spanDigits_part (p : Plain) (h : ∀ c ∈ tail.head?, c.isDigit = false) :
    spanDigits (p.part ++ tail) = (p.part, tail) :=
  spanDigits_append p.isDigit_part h

/-- A plain numeral is read as the number of its digits, with the place of the last one as exponent. -/
theorem unsignedNumeral?_unsigned (p : Plain) :
    unsignedNumeral? p.unsigned = some (p.coefficient, p.exponent) := by
  have hend : ∀ c ∈ ([] : List Char).head?, c.isDigit = false := nofun
  have hwhole := p.spanDigits_unsigned hend
  have hpart := p.spanDigits_part hend
  simp only [List.append_nil] at hwhole hpart
  by_cases hnil : p.part = []
  · simp [unsignedNumeral?, hwhole, hnil, p.whole_ne, coefficient, exponent]
  · simp [unsignedNumeral?, hwhole, hpart, hnil, p.whole_ne, coefficient, exponent]

theorem spanSign_cons (negative : Bool) (cs : List Char) :
    spanSign ((if negative then '-' else '+') :: cs) = (negative, cs) := by
  cases negative <;> rfl

/-- An exponent behind a plain numeral is added to that of the numeral. -/
theorem unsignedNumeral?_exponent (p : Plain) {mark : Char} (hmark : mark = 'e' ∨ mark = 'E')
    (negative : Bool) {power : List Char} (hne : power ≠ []) (hpower : ∀ c ∈ power, c.isDigit = true) :
    unsignedNumeral? (p.unsigned ++ mark :: (if negative then '-' else '+') :: power) =
      some (p.coefficient,
        (if negative then -(ofDigits power : Int) else ofDigits power) + p.exponent) := by
  have hspan : spanDigits (power ++ []) = (power, []) := spanDigits_append hpower nofun
  rw [List.append_nil] at hspan
  have hdigit : ∀ c ∈ (mark :: (if negative then '-' else '+') :: power).head?, c.isDigit = false := by
    rintro c ⟨⟩
    rcases hmark with rfl | rfl <;> rfl
  have hwhole := p.spanDigits_unsigned hdigit
  have hpart := p.spanDigits_part hdigit
  have hsign := spanSign_cons negative power
  rcases hmark with rfl | rfl
  all_goals
    by_cases hnil : p.part = []
    · simp [unsignedNumeral?, hwhole, hnil, p.whole_ne, coefficient, exponent, hsign, hspan, hne]
    · simp [unsignedNumeral?, hwhole, hpart, hnil, p.whole_ne, coefficient, exponent, hsign, hspan,
        hne, Int.sub_eq_add_neg]

theorem ofChars?_chars (p : Plain) :
    ofChars? p.chars = some (.finite p.negative p.coefficient p.exponent) := by
  rw [chars, ofChars?_signed p.negative p.isWord_unsigned p.unsigned_head_isDigit,
    p.unsignedNumeral?_unsigned]
  rfl

/-- A text is one plain numeral at most in what it denotes. -/
theorem toRat_of_ofChars? {d : Decimal} (h : ofChars? p.chars = some d) :
    d.toRat? = some p.toRat := by
  obtain rfl := Option.some.inj (p.ofChars?_chars.symm.trans h)
  rw [toRat?, p.toRat_eq]

end Plain

/-- The first digit, a point and the other ones. -/
def mantissa (negative : Bool) (c : Char) (rest : List Char)
    (h : ∀ x ∈ c :: rest, x.isDigit = true) : Plain where
  negative
  whole := [c]
  part := rest
  whole_ne := List.cons_ne_nil _ _
  isDigit := h
  no_leading_zero := by simp

/-- The digits of an exponent, filled up with zeros in front. -/
def powerDigits (width : Nat) (exponent : Int) : List Char :=
  List.replicate (width - (digits exponent.natAbs).length) '0' ++ digits exponent.natAbs

theorem isDigit_of_mem_powerDigits {width : Nat} {exponent : Int} {c : Char}
    (h : c ∈ powerDigits width exponent) : c.isDigit = true := by
  rcases List.mem_append.mp h with h | h
  · exact isDigit_of_mem_zeros h
  · exact isDigit_of_mem_digits h

theorem powerDigits_ne_nil (width : Nat) (exponent : Int) : powerDigits width exponent ≠ [] :=
  List.append_ne_nil_of_right_ne_nil _ (digits_ne_nil _)

theorem ofDigits_powerDigits (width : Nat) (exponent : Int) :
    ofDigits (powerDigits width exponent) = exponent.natAbs := by
  rw [powerDigits, ofDigits_append, ofDigits_zeros, ofDigits_digits, Nat.zero_mul, Nat.zero_add]

theorem exponential_cons (negative : Bool) (mark : Char) (width : Nat) {c : Char} {rest : List Char}
    (h : ∀ x ∈ c :: rest, x.isDigit = true) (exponent : Int) :
    exponential mark width (c :: rest) exponent = (mantissa negative c rest h).unsigned ++
      mark :: (if decide (exponent < 0) then '-' else '+') :: powerDigits width exponent := by
  cases rest <;> simp [exponential, Plain.unsigned, mantissa, powerDigits]

/-- Digits with an exponent are read as their number, with the exponent counted from the last one. -/
theorem ofChars?_exponential (negative : Bool) {mark : Char} (hmark : mark = 'e' ∨ mark = 'E')
    (width : Nat) {ds : List Char} (hne : ds ≠ []) (hdigits : ∀ c ∈ ds, c.isDigit = true)
    (exponent : Int) : ofChars? (signed negative (exponential mark width ds exponent)) =
      some (.finite negative (ofDigits ds) (exponent - (ds.length - 1))) := by
  obtain ⟨c, rest, rfl⟩ := List.exists_cons_of_ne_nil hne
  have hchars := exponential_cons negative mark width hdigits exponent
  have hexponent : (if decide (exponent < 0) then -(ofDigits (powerDigits width exponent) : Int)
      else ofDigits (powerDigits width exponent)) + (mantissa negative c rest hdigits).exponent =
        exponent - ((c :: rest).length - 1) := by
    have hpart : (mantissa negative c rest hdigits).exponent = -rest.length := rfl
    rw [ofDigits_powerDigits, hpart, List.length_cons]
    simp only [decide_eq_true_eq]
    omega
  have hmarkWord : Text.isWordChar mark = true := by rcases hmark with rfl | rfl <;> rfl
  have hword := isWord_exponential hmarkWord width
    ⟨hne, fun x hx => Text.isWordChar_of_isDigit (hdigits x hx)⟩ exponent
  have hhead : ∀ x ∈ (exponential mark width (c :: rest) exponent).head?, x.isDigit = true := by
    rw [hchars]
    rintro x ⟨⟩
    exact hdigits c List.mem_cons_self
  rw [ofChars?_signed negative hword hhead, hchars, Plain.unsignedNumeral?_exponent _ hmark _
    (powerDigits_ne_nil width exponent) (fun x hx => isDigit_of_mem_powerDigits hx), hexponent]
  rfl

end Decimal

end RequestSql
