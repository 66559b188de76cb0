/-!
# Decimal digits and their layout

A positive decimal value is a list of digits with a point: `digits` gives the digits of a natural
number, `placed` sets a point among digits, filling up with zeros, and `exponential` writes one
digit before the point and a signed exponent after a mark.
-/

namespace RequestSql.Decimal

/-- The decimal digits of a number, without leading zeros; zero has one digit. -/
def digits (n : Nat) : List Char := Nat.toDigits 10 n

def ofDigits (ds : List Char) : Nat := Nat.ofDigitChars 10 ds 0

/-- The most digits of an integer that is read or written out. -/
def maxDigits : Nat := 4300

theorem ofDigits_digits (n : Nat) : ofDigits (digits n) = n :=
  Nat.ofDigitChars_toDigits (by decide) (by decide)

theorem isDigit_of_mem_digits {n : Nat} {c : Char} (h : c ∈ digits n) : c.isDigit = true :=
  Nat.isDigit_of_mem_toDigits (by decide) (by decide) h

def signedDigits (n : Int) : List Char :=
  if n < 0 then '-' :: digits n.natAbs else digits n.natAbs

/-- The digits with the decimal point after the first `point` of them. Zeros fill a gap on either
side, and a whole number has no point. -/
def placed (ds : List Char) (point : Int) : List Char :=
  if point ≤ 0 then '0' :: '.' :: (List.replicate (-point).toNat '0' ++ ds)
  else if ds.length ≤ point.toNat then ds ++ List.replicate (point.toNat - ds.length) '0'
  else ds.take point.toNat ++ '.' :: ds.drop point.toNat

/-- One digit, a point if more digits follow, then the mark and the signed exponent in at least
`width` digits. -/
def exponential (mark : Char) (width : Nat) (ds : List Char) (exponent : Int) : List Char :=
  let mantissa := match ds with
    | d :: e :: rest => d :: '.' :: e :: rest
    | ds => ds
  let power := digits exponent.natAbs
  mantissa ++ mark :: (if exponent < 0 then '-' else '+') ::
    (List.replicate (width - power.length) '0' ++ power)

def signed (negative : Bool) (cs : List Char) : List Char :=
  if negative then '-' :: cs else cs

end RequestSql.Decimal
