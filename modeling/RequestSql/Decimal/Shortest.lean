import RequestSql.Decimal.Double

/-!
# The fewest digits that read back

The reals that round to a double form an interval around it, with its ends included when the
significand is even. `Double.shortest` gives the decimal with the fewest digits in that interval,
and of two such the nearer one.
-/

namespace RequestSql.Double

/-- Whether `c * 10 ^ e` lies in the interval of the reals that round to the double. The ends are
half a step away, or a quarter of a step below a significand that is a power of two. -/
def readsBack (x : Double) (c : Nat) (e : Int) : Bool :=
  let low := 4 * x.significand - (if x.narrowBelow then 1 else 2)
  let high := 4 * x.significand + 2
  let unit := twoTo (x.power - 2).toNat * tenTo (-e).toNat
  let value := c * tenTo e.toNat * twoTo (2 - x.power).toNat
  if x.significand % 2 = 0 then low * unit ≤ value && value ≤ high * unit
  else low * unit < value && value < high * unit

/-- The double is less than `10 ^ k`. -/
def belowPower (x : Double) (k : Int) : Bool :=
  x.significand * twoTo x.power.toNat * tenTo (-k).toNat < tenTo k.toNat * twoTo (-x.power).toNat

/-- The least `k` with the double below `10 ^ k`, from an estimate that is at most two too low. -/
def scale (x : Double) : Int :=
  let estimate := (((x.significand.log2 : Int) + x.power) * 30103).fdiv 100000
  if x.belowPower estimate then estimate
  else if x.belowPower (estimate + 1) then estimate + 1
  else estimate + 2

/-- The better of the two multiples of `10 ^ e` around the double, if one reads back. -/
def onGrid (x : Double) (e : Int) : Option (Nat × Int) :=
  let num := x.significand * twoTo x.power.toNat * tenTo (-e).toNat
  let den := twoTo (-x.power).toNat * tenTo e.toNat
  let below := num / den
  match x.readsBack below e, x.readsBack (below + 1) e with
  | false, false => none
  | true, false => some (below, e)
  | false, true => some (below + 1, e)
  | true, true => some (roundQuotient num den, e)

/-- The exact decimal value of a finite double. -/
def exactDecimal (x : Double) : Nat × Int :=
  if 0 ≤ x.power then (x.significand * twoTo x.power.toNat, 0)
  else (x.significand * Nat.pow 5 (-x.power).toNat, x.power)

/-- The coefficient and exponent of the shortest decimal that reads back: grids of one to seventeen
digits are tried in turn, and the exact value stands in if none should do. -/
def shortest (x : Double) : Nat × Int :=
  let k := x.scale
  let (c, e) := ((List.range 17).findSome? fun (n : Nat) => x.onGrid (k - (n + 1))).getD x.exactDecimal
  Decimal.reduced c e

/-- The digits of the shortest decimal and the place of its point. -/
def shortestDigits (x : Double) : List Char × Int :=
  let (c, e) := x.shortest
  let ds := Decimal.digits c
  (ds, e + ds.length)

/-- The natural text of a double: positional from `0.0001` up to ten to the sixteenth, with a zero
after the point of a whole number, and with an exponent of two digits or more elsewhere. -/
def chars (x : Double) : List Char :=
  if x.isNaN then "nan".toList
  else Decimal.signed x.negative <|
    if !x.isFinite then "inf".toList
    else if x.isZero then "0.0".toList
    else
      let (ds, point) := x.shortestDigits
      if -4 < point ∧ point ≤ 16 then
        let body := Decimal.placed ds point
        if ds.length ≤ point.toNat then body ++ ['.', '0'] else body
      else Decimal.exponential 'e' 2 ds (point - 1)

def text (x : Double) : String := String.ofList x.chars

end RequestSql.Double
