import Mathlib.Algebra.Group.Nat.Defs
import Mathlib.Data.List.TakeDrop
import Mathlib.Data.List.TakeWhile
import RequestSql.Decimal.Basic

/-!
# Digits and the numbers that they denote

How the number of a run of digits comes from its parts, how large it is, and where a run ends. The
digits of a number have no zero in front, unless it is zero itself.
-/

namespace RequestSql.Decimal

theorem ofDigits_lt {ds : List Char} (h : ∀ c ∈ ds, c.isDigit = true) :
    ofDigits ds < 10 ^ ds.length := by
  -- for any number in front of the digits, since the induction shifts them into it
  have hfrom : ∀ n, Nat.ofDigitChars 10 ds n < (n + 1) * 10 ^ ds.length := by
    induction ds with
    | nil => intro n; simp
    | cons c cs ih =>
      intro n
      have hc : c.toNat - '0'.toNat ≤ 9 :=
        Nat.sub_le_sub_right (Char.isDigit_iff_toNat.mp (h c List.mem_cons_self)).2 _
      have hrest := ih (fun x hx => h x (List.mem_cons_of_mem c hx)) (10 * n + (c.toNat - '0'.toNat))
      rw [Nat.ofDigitChars_cons, List.length_cons, Nat.pow_succ]
      refine Nat.lt_of_lt_of_le hrest ?_
      calc (10 * n + (c.toNat - '0'.toNat) + 1) * 10 ^ cs.length
          ≤ (10 * (n + 1)) * 10 ^ cs.length := Nat.mul_le_mul_right _ (by omega)
        _ = (n + 1) * (10 ^ cs.length * 10) := by rw [Nat.mul_comm 10, Nat.mul_assoc, Nat.mul_comm 10]
  simpa [ofDigits] using hfrom 0

theorem length_digits_ofDigits {ds : List Char} (hne : ds ≠ []) (h : ∀ c ∈ ds, c.isDigit = true) :
    (digits (ofDigits ds)).length ≤ ds.length :=
  (Nat.length_toDigits_le_iff (by decide) (List.length_pos_iff.mpr hne)).mpr (ofDigits_lt h)

theorem digits_ne_nil (n : Nat) : digits n ≠ [] := Nat.toDigits_ne_nil

theorem ofDigits_append (as bs : List Char) :
    ofDigits (as ++ bs) = ofDigits as * 10 ^ bs.length + ofDigits bs := by
  rw [ofDigits, Nat.ofDigitChars_append, Nat.ofDigitChars_eq_ofDigitChars_zero, Nat.mul_comm]
  rfl

@[simp] theorem ofDigits_zero_cons (ds : List Char) : ofDigits ('0' :: ds) = ofDigits ds := by
  rw [ofDigits, Nat.ofDigitChars_cons]
  rfl

@[simp] theorem ofDigits_zeros (n : Nat) : ofDigits (List.replicate n '0') = 0 := by
  rw [ofDigits, Nat.ofDigitChars_replicate_zero, Nat.mul_zero]

/-- Only zero is written with a zero in front. -/
theorem head?_digits {n : Nat} : (digits n).head? = some '0' ↔ n = 0 := by
  constructor
  · intro h
    obtain ⟨rest, hdigits⟩ := List.head?_eq_some_iff.mp h
    have hrest : ofDigits rest = n := by
      rw [← ofDigits_zero_cons, ← hdigits, ofDigits_digits]
    cases rest with
    | nil => exact hrest.symm
    | cons c cs =>
      -- without the zero in front the number has fewer digits than it has
      have hlen := length_digits_ofDigits (List.cons_ne_nil c cs) fun x hx =>
        isDigit_of_mem_digits (n := n) (hdigits ▸ List.mem_cons_of_mem '0' hx)
      rw [hrest, hdigits, List.length_cons] at hlen
      exact absurd hlen (Nat.not_succ_le_self _)
  · rintro rfl
    rfl

theorem spanDigits_isDigit {cs : List Char} : ∀ c ∈ (spanDigits cs).1, c.isDigit = true := by
  intro c hc
  rw [spanDigits, List.span_eq_takeWhile_dropWhile] at hc
  exact List.all_eq_true.mp (List.all_takeWhile) c hc

theorem spanDigits_append {ds rest : List Char} (hds : ∀ c ∈ ds, c.isDigit = true)
    (hrest : ∀ c ∈ rest.head?, c.isDigit = false) : spanDigits (ds ++ rest) = (ds, rest) := by
  rw [spanDigits, List.span_eq_takeWhile_dropWhile, List.takeWhile_append_of_pos hds,
    List.dropWhile_append_of_pos hds]
  cases rest with
  | nil => simp
  | cons c cs => simp [hrest c rfl]

end RequestSql.Decimal
