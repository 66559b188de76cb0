import RequestSql.Decimal.Basic
import RequestSql.Decimal.Power

/-!
# Binary floating point data

A double is held by its sign, exponent field and fraction field. A finite double has the exact value
`significand * 2 ^ power`, and `Double.ofDecimal` gives the double nearest to a decimal.
-/

namespace RequestSql

/-- The number of fractions of one exponent: the fraction field has 52 bits. -/
abbrev fractionCount : Nat := 0x10000000000000

/-- A 64-bit binary floating point datum. -/
structure Double where
  negative : Bool
  exponent : Fin 2048
  fraction : Fin fractionCount
  deriving DecidableEq, Repr

namespace Double

/-- The datum is a number, neither infinite nor undefined. -/
def isFinite (x : Double) : Bool := x.exponent.val < 2047

def isNaN (x : Double) : Bool := x.exponent.val == 2047 && x.fraction.val != 0

/-- The order of absolute values: the exponent field first, then the fraction. -/
def magnitude (x : Double) : Nat := x.exponent.val * fractionCount + x.fraction.val

def isZero (x : Double) : Bool := x.magnitude == 0

/-- The integer that is scaled by `2 ^ power`; a normal number has a leading one that the fraction
does not show. -/
def significand (x : Double) : Nat :=
  if x.exponent.val = 0 then x.fraction.val else fractionCount + x.fraction.val

def power (x : Double) : Int := max x.exponent.val 1 - 1075

/-- The value below is nearer than the value above: the significand is a power of two, and not the
least one. -/
def narrowBelow (x : Double) : Bool := x.fraction.val == 0 && 1 < x.exponent.val

def isIntegral (x : Double) : Bool :=
  0 ≤ x.power || x.significand % twoTo (-x.power).toNat == 0

def natAbs (x : Double) : Nat :=
  if 0 ≤ x.power then x.significand * twoTo x.power.toNat
  else x.significand / twoTo (-x.power).toNat

def infinity (negative : Bool) : Double := ⟨negative, 2047, 0⟩

/-- The quiet datum that stands for no number. -/
def nan : Double := ⟨false, 2047, 0x8000000000000⟩

/-- The datum with a given place in the order of absolute values, infinite beyond the finite ones. -/
def ofMagnitude (negative : Bool) (k : Nat) : Double :=
  if k < 2047 * fractionCount
  then ⟨negative, Fin.ofNat 2048 (k / fractionCount), Fin.ofNat fractionCount k⟩
  else infinity negative

/-- The quotient rounded to nearest, ties to even. -/
def roundQuotient (num den : Nat) : Nat :=
  let q := num / den
  let r := num % den
  if 2 * r < den then q
  else if den < 2 * r then q + 1
  else if q % 2 = 0 then q else q + 1

/-- The double nearest to `num / den`, ties to even. -/
def ofQuotient (negative : Bool) (num den : Nat) : Double :=
  let estimate : Int := (num.log2 : Int) - den.log2
  let reaches := den * twoTo estimate.toNat ≤ num * twoTo (-estimate).toNat
  let top := if reaches then estimate else estimate - 1
  let q := max (top - 52) (-1074)
  let m := roundQuotient (num * twoTo (-q).toNat) (den * twoTo q.toNat)
  ofMagnitude negative ((q + 1074).toNat * fractionCount + m)

/-- The double nearest to `coefficient * 10 ^ exponent`. Values that are certain to overflow or to
vanish are settled before their powers of ten are formed. -/
def ofDecimal (negative : Bool) (coefficient : Nat) (exponent : Int) : Double :=
  let point := exponent + (Decimal.digits coefficient).length
  if coefficient = 0 ∨ point < -330 then ofMagnitude negative 0
  else if 310 < point then infinity negative
  else ofQuotient negative (coefficient * tenTo exponent.toNat) (tenTo (-exponent).toNat)

def ofDatum? : Decimal → Option Double
  | .finite negative c e => some (ofDecimal negative c e)
  | .infinity negative => some (infinity negative)
  | .nan _ false _ => some nan
  | .nan _ true _ => none

def ofText? (s : String) : Option Double := (Decimal.ofText? s).bind ofDatum?

end Double

end RequestSql
