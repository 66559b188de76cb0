import RequestSql.Decimal.Layout
import RequestSql.Text.Blank

/-!
# Decimal data

A decimal datum keeps its coefficient and its exponent, so `1E+5` and `100000` are different data
of one value. `Decimal.text` writes a datum, `Decimal.ofText?` reads a numeral.
-/

namespace RequestSql

/-- A decimal number, infinity or diagnostic. -/
inductive Decimal where
  /-- `coefficient * 10 ^ exponent`, negated when `negative`. -/
  | finite (negative : Bool) (coefficient : Nat) (exponent : Int)
  | infinity (negative : Bool)
  /-- Not a number; a payload of zero is not written. -/
  | nan (negative signaling : Bool) (payload : Nat)
  deriving DecidableEq, Repr, Inhabited

namespace Decimal

/-- The text of a finite datum: positional unless the exponent is positive or more than five zeros
would follow the point. -/
def finiteText (coefficient : Nat) (exponent : Int) : List Char :=
  let ds := digits coefficient
  let point := exponent + ds.length
  if exponent ≤ 0 ∧ -6 < point then placed ds point
  else exponential 'E' 1 ds (point - 1)

def chars : Decimal → List Char
  | .finite negative c e => signed negative (finiteText c e)
  | .infinity negative => signed negative "Infinity".toList
  | .nan negative signaling payload =>
    signed negative ((if signaling then "sNaN" else "NaN").toList ++
      if payload = 0 then [] else digits payload)

def text (d : Decimal) : String := String.ofList d.chars

def isZero : Decimal → Bool
  | .finite _ c _ => c == 0
  | _ => false

def spanDigits (cs : List Char) : List Char × List Char := cs.span Char.isDigit

def spanSign : List Char → Bool × List Char
  | '-' :: cs => (true, cs)
  | '+' :: cs => (false, cs)
  | cs => (false, cs)

/-- Reads digits with an optional point and an optional exponent, to the end of the text. -/
def unsignedNumeral? (cs : List Char) : Option (Nat × Int) :=
  let (whole, rest) := spanDigits cs
  let (part, rest) := match rest with
    | '.' :: more => spanDigits more
    | more => ([], more)
  if whole.isEmpty && part.isEmpty then none
  else
    let coefficient := ofDigits (whole ++ part)
    match rest with
    | [] => some (coefficient, -part.length)
    | mark :: more =>
      if mark = 'e' ∨ mark = 'E' then
        let (negative, more) := spanSign more
        match spanDigits more with
        | (power, []) =>
          if power.isEmpty then none
          else
            let power : Int := ofDigits power
            some (coefficient, (if negative then -power else power) - part.length)
        | _ => none
      else none

/-- Reads a decimal numeral, an infinity or a not-a-number in either letter case. Space around it
and underscores are passed over. -/
def ofChars? (cs : List Char) : Option Decimal :=
  let (negative, cs) := spanSign ((Text.trim Text.isSpacing cs).filter (· ≠ '_'))
  let word := cs.map Char.toLower
  if word = "inf".toList ∨ word = "infinity".toList then some (.infinity negative)
  else
    let diagnostic (signaling : Bool) (payload : List Char) : Option Decimal :=
      if payload.all Char.isDigit then some (.nan negative signaling (ofDigits payload)) else none
    match word with
    | 'n' :: 'a' :: 'n' :: payload => diagnostic false payload
    | 's' :: 'n' :: 'a' :: 'n' :: payload => diagnostic true payload
    | _ => (unsignedNumeral? cs).map fun (c, e) => .finite negative c e

def ofText? (s : String) : Option Decimal := ofChars? s.toList

/-- Drops trailing zeros of a coefficient, each into the exponent; the first argument bounds their
number. -/
def stripZeros : Nat → Nat → Int → Nat × Int
  | 0, c, e => (c, e)
  | bound + 1, c, e => if c ≠ 0 ∧ c % 10 = 0 then stripZeros bound (c / 10) (e + 1) else (c, e)

/-- The coefficient and exponent of a value with no trailing zero in the coefficient. -/
def reduced (coefficient : Nat) (exponent : Int) : Nat × Int :=
  if coefficient = 0 then (0, 0) else stripZeros (digits coefficient).length coefficient exponent

end Decimal

end RequestSql
