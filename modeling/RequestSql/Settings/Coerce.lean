import RequestSql.Request.Coerce
import RequestSql.Text.Blank

/-!
# Reading numbers and truth values

Settings come as text as often as not. An integer may have a sign, zeros in front, single
underscores between digits and zeros after a point; a truth value is one of the usual words.
-/

namespace RequestSql.Reading

/-- What stays of a text after zeros and underscores: the text from the first other digit or minus
sign on. Where a point or the end comes first, the character before it stays. The first argument is
the character passed last. -/
def afterZeros (last : Char) : List Char → Option (List Char)
  | [] => some [last]
  | c :: cs =>
    if c == '0' || c == '_' then afterZeros c cs
    else if c.isDigit || c == '-' then some (c :: cs)
    else if c == '.' then some (last :: c :: cs)
    else none

/-- A text without the zeros in front. It has to begin with a digit or a minus sign. -/
def withoutZeros? : List Char → Option (List Char)
  | [] => none
  | c :: cs =>
    if c == '0' then afterZeros c cs
    else if c.isDigit || c == '-' then some (c :: cs)
    else none

/-- Splits a sign off; a plus sign only before a digit. -/
def splitSign : List Char → Bool × List Char
  | '-' :: cs => (true, cs)
  | '+' :: d :: cs => (false, if d.isDigit then d :: cs else '+' :: d :: cs)
  | cs => (false, cs)

/-- Drops a point that only zeros follow, one at least. -/
def dropWholePoint (cs : List Char) : List Char :=
  match cs.span (· != '.') with
  | (whole, _ :: z :: zs) => if (z :: zs).all (· == '0') then whole else cs
  | _ => cs

/-- No underscore is first or last or next to another. -/
def underscoresInside (cs : List Char) : Bool :=
  cs.head? != some '_' && cs.getLast? != some '_' &&
    (cs.zip (cs.drop 1)).all fun (a, b) => !(a == '_' && b == '_')

/-- Drops underscores that stand inside. -/
def dropUnderscores (cs : List Char) : List Char :=
  if underscoresInside cs then cs.filter (· != '_') else cs

/-- Reads digits without a zero in front. The sign counts towards the longest text that is read. -/
def plainInt (negative : Bool) (cs : List Char) : Except FaultKind Int :=
  match Decimal.spanDigits cs with
  | ([], _) => .error .intText
  | ('0' :: ds, rest) => if ds.isEmpty && rest.isEmpty then .ok 0 else .error .intText
  | (ds, rest) =>
    if Decimal.maxDigits < ds.length + negative.toNat then .error .intTooLarge
    else if !rest.isEmpty then .error .intText
    else
      let n : Int := Decimal.ofDigits ds
      .ok (if negative then -n else n)

/-- The integer that a text denotes, or the kind of mismatch. A minus sign stands in front, or else
after zeros. -/
def intOfText (s : String) : Except FaultKind Int :=
  let (negative, cs) := splitSign (Text.trim Text.isBlank s.toList)
  match withoutZeros? cs with
  | none => .error .intText
  | some cs => match negative, dropUnderscores (dropWholePoint cs) with
    | false, '-' :: cs => plainInt true cs
    | negative, cs => plainInt negative cs

/-- The integer that a double is, or the kind of mismatch. -/
def intOfDouble (x : Double) : Except FaultKind Int :=
  if !x.isFinite then .error .notFinite
  else if !x.isIntegral then .error .intFraction
  else if x.natAbs < wordBound then .ok (if x.negative then -x.natAbs else x.natAbs)
  else .error .intTooLarge

/-- The integer that a decimal datum is, or the kind of mismatch. -/
def intOfDecimal : Decimal → Except FaultKind Int
  | .finite negative c e =>
    let (c, e) := Decimal.reduced c e
    if e < 0 then .error .intFraction
    else
      let n : Int := c * tenTo e.toNat
      .ok (if negative then -n else n)
  | _ => .error .notFinite

/-- The reading of a part that is an integer or of another kind. -/
def ofKind {α : Type} (path : List PathStep) (v : Value) : Except FaultKind α → Reading α
  | .ok a => .ok a
  | .error kind => .fault kind path v

def int (path : List PathStep) (v : Value) : Reading Int :=
  ofKind path v <| match v with
    | .int n => .ok n
    | .bool b => .ok b.toNat
    | .text s => intOfText s
    | .bytes bs => match textOfBytes? bs with
      | some s => intOfText s
      | none => .error .intText
    | .float x => intOfDouble x
    | .decimal d => intOfDecimal d
    | _ => .error .notInt

def boolOfText (s : String) : Except FaultKind Bool :=
  let word := s.map Char.toLower
  if word ∈ ["1", "on", "t", "true", "y", "yes"] then .ok true
  else if word ∈ ["0", "off", "f", "false", "n", "no"] then .ok false
  else .error .boolText

/-- The truth value of zero and one; larger integers than a machine word are of another kind. -/
def boolOfInt (n : Int) : Except FaultKind Bool :=
  if n = 0 then .ok false
  else if n = 1 then .ok true
  else if isWord n then .error .boolText
  else .error .notBool

/-- The truth value of a double that is a machine-sized integer. -/
def boolOfDouble (x : Double) : Except FaultKind Bool :=
  match intOfDouble x with
  | .ok n => boolOfInt n
  | .error _ => .error .notBool

/-- Reads a truth value. A decimal datum counts as the nearest double. -/
def bool (path : List PathStep) (v : Value) : Reading Bool :=
  ofKind path v <| match v with
    | .bool b => .ok b
    | .text s => boolOfText s
    | .bytes bs => match textOfBytes? bs with
      | some s => boolOfText s
      | none => .error .boolText
    | .int n => boolOfInt n
    | .float x => boolOfDouble x
    | .decimal d => match Double.ofDatum? d with
      | some x => boolOfDouble x
      | none => .error .notBool
    | _ => .error .notBool

end RequestSql.Reading
