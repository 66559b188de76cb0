import RequestSql.Text.Hex

/-!
# Halves of pairs

A text written in 16-bit codes may hold one code of a pair without the other. Such a half is no
character, so a text holds a stand-in for it: a character of a block for private use that the text
does not use itself. `Halves.of?` finds the first halves of a text, which keep it from being
encoded.
-/

namespace RequestSql.Text

def isHighHalf (n : Nat) : Bool := 0xD800 ≤ n && n < 0xDC00

def isLowHalf (n : Nat) : Bool := 0xDC00 ≤ n && n < 0xE000

def joined (high low : Nat) : Nat := 0x10000 + (high - 0xD800) * 0x400 + (low - 0xDC00)

/-- One of the blocks for private use that have as many characters as there are halves. -/
structure HalfBlock where
  index : Fin 64
  deriving DecidableEq, Repr

namespace HalfBlock

def first (b : HalfBlock) : Nat := 0xF0000 + 0x800 * b.index

/-- The character of a code, or the stand-in for half of a pair. -/
def char (b : HalfBlock) (n : Nat) : Char :=
  Char.ofNat (if isHighHalf n || isLowHalf n then b.first + (n - 0xD800) else n)

def half? (b : HalfBlock) (c : Char) : Option Nat :=
  if b.first ≤ c.toNat && c.toNat < b.first + 0x800 then some (c.toNat - b.first + 0xD800) else none

/-- A stand-in stands for its half. -/
theorem half?_char (b : HalfBlock) {n : Nat} (h : (isHighHalf n || isLowHalf n) = true) :
    b.half? (b.char n) = some n := by
  have hn : 0xD800 ≤ n ∧ n < 0xE000 := by
    simp only [isHighHalf, isLowHalf, Bool.or_eq_true, Bool.and_eq_true, decide_eq_true_eq] at h
    omega
  have hb := b.index.isLt
  have hv : (b.first + (n - 0xD800)).isValidChar := by
    simp only [Nat.isValidChar, first]
    omega
  have hc : (b.char n).toNat = b.first + (n - 0xD800) := by
    rw [char, if_pos h, Char.ofNat, dif_pos hv]
    rfl
  simp only [half?, hc, Bool.and_eq_true, decide_eq_true_eq]
  rw [if_pos (by omega)]
  congr 1
  omega

/-- The blocks in the order in which they are taken: the ends of the range for private use, where
characters are most often taken from, come late. -/
def candidates : List HalfBlock := (List.finRange 64).map fun i => ⟨i + 27⟩

/-- A block that has none of some characters, if there is one. -/
def unusedIn (numbers : List Nat) : HalfBlock :=
  (candidates.find? fun b => numbers.all fun n => n < b.first || b.first + 0x800 ≤ n).getD ⟨27⟩

/-- The displayed text in which the escape of a half replaces the one of its stand-in. -/
def shown (b : HalfBlock) : List Char → List Char
  | [] => []
  | '\\' :: 'U' :: s :: t :: u :: v :: w :: x :: y :: z :: cs =>
    let digits := [s, t, u, v, w, x, y, z]
    let n := (digits.map fun d => (hexValue? d).getD 0).foldl (fun n d => n * 16 + d) 0
    match b.half? (Char.ofNat n) with
    | some half => '\\' :: 'u' :: (hex 4 half ++ shown b cs)
    | none => '\\' :: 'U' :: (digits ++ shown b cs)
  | '\\' :: c :: cs => '\\' :: c :: shown b cs
  | c :: cs => c :: shown b cs

end HalfBlock

/-- Halves that stand together in a text. -/
structure Halves where
  /-- The place of the first one, counted in characters. -/
  position : Nat
  /-- How many there are. -/
  count : Nat
  /-- The code of the first one. -/
  code : Nat
  deriving DecidableEq, Repr

namespace Halves

def of? (b : HalfBlock) (cs : List Char) : Option Halves :=
  let (before, rest) := cs.span fun c => (b.half? c).isNone
  match rest with
  | [] => none
  | c :: _ => (b.half? c).map fun code => {
      position := before.length
      count := (rest.takeWhile fun c => (b.half? c).isSome).length
      code }

/-- Why a text with these halves cannot be encoded. -/
def message (h : Halves) : String :=
  let place :=
    if h.count = 1 then
      " '\\u" ++ String.ofList (hex 4 h.code) ++ "' in position " ++ toString h.position
    else "s in position " ++ toString h.position ++ "-" ++ toString (h.position + h.count - 1)
  "'utf-8' codec can't encode character" ++ place ++ ": surrogates not allowed"

end Halves

example : HalfBlock.unusedIn [0xFD9FF, 0xFE000] = ⟨29⟩ := by decide
example :
    Halves.of? ⟨0⟩ ['a', HalfBlock.char ⟨0⟩ 0xDE00, HalfBlock.char ⟨0⟩ 0xD83D, 'b'] =
      some ⟨1, 2, 0xDE00⟩ := by
  decide
example : HalfBlock.shown ⟨27⟩ "\\\\U000fd800\\U000fd800".toList = "\\\\U000fd800\\ud800".toList := by
  decide +kernel

end RequestSql.Text
