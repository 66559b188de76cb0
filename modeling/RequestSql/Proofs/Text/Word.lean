import RequestSql.Number

/-!
# Words

A word is a run of ASCII letters, digits, points and signs. No word holds a quote, a blank or any
other character that separates the parts of a statement, and the text of every number is a word:
of integers of any size, of doubles in either notation, of decimal data, infinities and undefined
numbers.
-/

namespace RequestSql.Text

def isWordChar (c : Char) : Bool := c.isAlphanum || c == '+' || c == '.' || c == '-'

/-- A text of word characters, at least one. -/
structure IsWord (cs : List Char) : Prop where
  ne_nil : cs ≠ []
  all : ∀ c ∈ cs, isWordChar c = true

theorem isWord_iff {cs : List Char} :
    IsWord cs ↔ (!cs.isEmpty && cs.all isWordChar) = true := by
  rw [Bool.and_eq_true, List.all_eq_true]
  constructor
  · intro h
    exact ⟨by simpa using h.ne_nil, h.all⟩
  · rintro ⟨hne, hall⟩
    exact ⟨by simpa using hne, hall⟩

instance (cs : List Char) : Decidable (IsWord cs) := decidable_of_iff _ isWord_iff.symm

theorem isWordChar_of_isDigit {c : Char} (h : c.isDigit = true) : isWordChar c = true := by
  simp [isWordChar, Char.isAlphanum, h]

namespace IsWord

theorem cons {c : Char} {cs : List Char} (hc : isWordChar c = true) (h : IsWord cs) :
    IsWord (c :: cs) := by
  refine ⟨List.cons_ne_nil c cs, ?_⟩
  rintro x (_ | ⟨_, hx⟩)
  · exact hc
  · exact h.all x hx

theorem append {as bs : List Char} (ha : IsWord as) (hb : ∀ c ∈ bs, isWordChar c = true) :
    IsWord (as ++ bs) := by
  refine ⟨List.append_ne_nil_of_left_ne_nil ha.ne_nil bs, fun c hc => ?_⟩
  rcases List.mem_append.mp hc with h | h
  · exact ha.all c h
  · exact hb c h

end IsWord

end RequestSql.Text

namespace RequestSql.Decimal

open Text (isWordChar IsWord isWordChar_of_isDigit)

theorem isWord_digits (n : Nat) : IsWord (digits n) :=
  ⟨Nat.toDigits_ne_nil, fun _ hc => isWordChar_of_isDigit (isDigit_of_mem_digits hc)⟩

theorem isWord_signedDigits (n : Int) : IsWord (signedDigits n) := by
  unfold signedDigits
  split
  · exact (isWord_digits _).cons rfl
  · exact isWord_digits _

theorem isWord_signed (negative : Bool) {cs : List Char} (h : IsWord cs) :
    IsWord (signed negative cs) := by
  cases negative
  · exact h
  · exact h.cons rfl

theorem isWordChar_of_mem_replicate {n : Nat} {c : Char} (h : c ∈ List.replicate n '0') :
    isWordChar c = true := by
  rw [(List.mem_replicate.mp h).2]
  rfl

/-- A point among digits leaves a word, wherever it falls. -/
theorem isWord_placed {ds : List Char} (h : IsWord ds) (point : Int) : IsWord (placed ds point) := by
  unfold placed
  split
  · -- the point stands before all digits
    refine ⟨List.cons_ne_nil _ _, fun c hc => ?_⟩
    rcases List.mem_cons.mp hc with rfl | hc
    · rfl
    rcases List.mem_cons.mp hc with rfl | hc
    · rfl
    rcases List.mem_append.mp hc with hc | hc
    · exact isWordChar_of_mem_replicate hc
    · exact h.all c hc
  · split
    · exact h.append fun c hc => isWordChar_of_mem_replicate hc
    · refine ⟨by simp, fun c hc => ?_⟩
      rcases List.mem_append.mp hc with hc | hc
      · exact h.all c (List.mem_of_mem_take hc)
      rcases List.mem_cons.mp hc with rfl | hc
      · rfl
      · exact h.all c (List.mem_of_mem_drop hc)

theorem isWord_exponential {mark : Char} (hm : isWordChar mark = true) (width : Nat)
    {ds : List Char} (h : IsWord ds) (exponent : Int) :
    IsWord (exponential mark width ds exponent) := by
  unfold exponential
  refine IsWord.append ?_ fun c hc => ?_
  · match ds, h with
    | [], h => exact absurd rfl h.ne_nil
    | [_], h => exact h
    | d :: e :: rest, h =>
      have hd : isWordChar d = true := h.all d List.mem_cons_self
      have htail : IsWord (e :: rest) :=
        ⟨List.cons_ne_nil _ _, fun c hc => h.all c (List.mem_cons_of_mem d hc)⟩
      exact (htail.cons (c := '.') rfl).cons hd
  · rcases List.mem_cons.mp hc with rfl | hc
    · exact hm
    rcases List.mem_cons.mp hc with rfl | hc
    · split <;> rfl
    rcases List.mem_append.mp hc with hc | hc
    · exact isWordChar_of_mem_replicate hc
    · exact (isWord_digits _).all c hc

theorem isWord_chars (d : Decimal) : IsWord d.chars := by
  cases d with
  | finite negative c e =>
    refine isWord_signed negative ?_
    unfold finiteText
    simp only
    split
    · exact isWord_placed (isWord_digits c) _
    · exact isWord_exponential rfl 1 (isWord_digits c) _
  | infinity negative => exact isWord_signed negative (by decide)
  | nan negative signaling payload =>
    refine isWord_signed negative (IsWord.append ?_ fun c hc => ?_)
    · cases signaling <;> decide
    · split at hc
      · exact absurd hc List.not_mem_nil
      · exact (isWord_digits payload).all c hc

end RequestSql.Decimal

namespace RequestSql

open Text (IsWord)

theorem Double.isWord_chars (x : Double) : IsWord x.chars := by
  unfold Double.chars
  split
  · decide
  refine Decimal.isWord_signed x.negative ?_
  split
  · decide
  split
  · decide
  have hds : IsWord x.shortestDigits.1 := Decimal.isWord_digits _
  simp only
  split
  · split
    · exact (Decimal.isWord_placed hds _).append (IsWord.all (by decide))
    · exact Decimal.isWord_placed hds _
  · exact Decimal.isWord_exponential rfl 2 hds _

namespace Number

theorem isWord_floatLiteral (x : Double) : IsWord (floatLiteral x) := by
  unfold floatLiteral
  split
  · decide
  split
  · refine Decimal.isWord_signed x.negative ?_
    split
    · exact Decimal.isWord_digits _
    · exact Decimal.isWord_placed (Decimal.isWord_digits _) _
  · exact x.isWord_chars

theorem isWord_literalChars (n : Number) : IsWord n.literalChars := by
  cases n with
  | int n => exact Decimal.isWord_signedDigits n
  | float x => exact isWord_floatLiteral x
  | decimal d => exact d.isWord_chars
  | truth b => cases b <;> decide

end Number

end RequestSql
