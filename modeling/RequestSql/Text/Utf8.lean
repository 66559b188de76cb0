/-!
# Reading bytes as text

`Utf8.decode` reads any bytes: where they are no UTF-8, each longest part that could have begun a
character gives one replacement character. A second byte has a narrower range after some first
bytes, which excludes overlong forms, surrogates and numbers that are no characters.
-/

namespace RequestSql.Text.Utf8

/-- Stands for bytes that are no text. -/
def replacement : Char := '\ufffd'

/-- A character whose last bytes are still to come. -/
structure Pending where
  /-- The further bytes after the next one. -/
  more : Nat
  /-- The least next byte. -/
  low : Nat
  /-- The greatest next byte. -/
  high : Nat
  /-- The number read so far. -/
  number : Nat

/-- What a first byte begins, if it begins a character of several bytes. -/
def Pending.ofFirst? (b : Nat) : Option Pending :=
  if b < 0xC2 then none
  else if b < 0xE0 then some ⟨0, 0x80, 0xBF, b - 0xC0⟩
  else if b = 0xE0 then some ⟨1, 0xA0, 0xBF, 0⟩
  else if b = 0xED then some ⟨1, 0x80, 0x9F, 0xD⟩
  else if b < 0xF0 then some ⟨1, 0x80, 0xBF, b - 0xE0⟩
  else if b = 0xF0 then some ⟨2, 0x90, 0xBF, 0⟩
  else if b < 0xF4 then some ⟨2, 0x80, 0xBF, b - 0xF0⟩
  else if b = 0xF4 then some ⟨2, 0x80, 0x8F, 4⟩
  else none

def first (b : Nat) : List Char × Option Pending :=
  if b < 0x80 then ([Char.ofNat b], none)
  else match Pending.ofFirst? b with
    | some p => ([], some p)
    | none => ([replacement], none)

/-- One byte: the characters that it completes, and what is pending after it. -/
def step (pending : Option Pending) (b : Nat) : List Char × Option Pending :=
  match pending with
  | none => first b
  | some p =>
    if p.low ≤ b ∧ b ≤ p.high then
      let number := p.number * 64 + b % 64
      match p.more with
      | 0 => ([Char.ofNat number], none)
      | more + 1 => ([], some ⟨more, 0x80, 0xBF, number⟩)
    else
      let (cs, next) := first b
      (replacement :: cs, next)

/-- The characters of bytes, given what is pending. -/
def decodeFrom : Option Pending → List UInt8 → List Char
  | none, [] => []
  | some _, [] => [replacement]
  | pending, b :: bs =>
    let (cs, next) := step pending b.toNat
    cs ++ decodeFrom next bs

def decode (bs : List UInt8) : List Char := decodeFrom none bs

example : decode [0x61, 0xC3, 0xA9, 0xF0, 0x9F, 0x98, 0x80] = ['a', 'é', '😀'] := by decide
example : decode [0xE0, 0x80, 0x61, 0xF0, 0x9F] =
    [replacement, replacement, 'a', replacement] := by decide

end RequestSql.Text.Utf8
