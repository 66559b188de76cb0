import RequestSql.Decimal.Shortest

/-!
# Numbers and their literal text

`Number.literal` writes a number as it stands in a statement. Integers, and doubles of ordinary
size, are plain decimals; a decimal datum keeps its own notation, and infinities and undefined
numbers go in as words.
-/

namespace RequestSql

/-- A number as a request carries it. -/
inductive Number where
  | int (n : Int)
  | float (x : Double)
  | decimal (d : Decimal)
  /-- A truth value that its sender declared to be a number. -/
  | truth (b : Bool)
  deriving DecidableEq, Repr

namespace Number

/-- The magnitude of the double nearest to `10 ^ -7`, the least one that is written positionally. -/
def plainFrom : Nat := 0x3E7AD7F29ABCAF48

/-- The magnitude of `10 ^ 21`, where positional writing ends. -/
def plainUpTo : Nat := 0x444B1AE4D6E2EF50

theorem magnitude_plainFrom : (Double.ofDecimal false 1 (-7)).magnitude = plainFrom := by
  decide +kernel

theorem magnitude_plainUpTo : (Double.ofDecimal false 1 21).magnitude = plainUpTo := by
  decide +kernel

/-- The double is of ordinary size. -/
def isOrdinary (x : Double) : Bool := plainFrom ≤ x.magnitude && x.magnitude < plainUpTo

/-- A double in a statement: whole numbers exactly, others by their shortest digits, with no
exponent in the ordinary range; zero without a sign; the natural text outside the range. -/
def floatLiteral (x : Double) : List Char :=
  if x.isZero then ['0']
  else if isOrdinary x then
    Decimal.signed x.negative <|
      if x.isIntegral then Decimal.digits x.natAbs
      else Decimal.placed x.shortestDigits.1 x.shortestDigits.2
  else x.chars

def literalChars : Number → List Char
  | .int n => Decimal.signedDigits n
  | .float x => floatLiteral x
  | .decimal d => d.chars
  | .truth b => (if b then "True" else "False").toList

def literal (n : Number) : String := String.ofList n.literalChars

end Number

end RequestSql
