import RequestSql.Decimal.Basic
import RequestSql.Http.Query

/-!
# Hosts

A host header names a host and perhaps a port. The host is a name or, in square brackets, an
address of eight groups of hexadecimal digits, of which one run of zeros may be left out. A header
of another form names nothing.
-/

namespace RequestSql.Http.Host

/-- The characters of a name that stand for themselves. -/
def isPlain (c : Char) : Bool := c.isAlphanum || "-._~!$&'()*+,;=".toList.contains c

/-- A text of a name: plain characters, and bytes as two hexadecimal digits after a percent sign. -/
def isName : List Char → Bool
  | [] => true
  | '%' :: high :: low :: cs => (Query.byte? high low).isSome && isName cs
  | c :: cs => isPlain c && isName cs

def isGroup (cs : List Char) : Bool :=
  !cs.isEmpty && cs.length ≤ 4 && cs.all fun c => (Text.hexValue? c).isSome

/-- One of the four numbers that can stand for the last two groups. -/
def isOctet (cs : List Char) : Bool :=
  !cs.isEmpty && cs.length ≤ 3 && cs.all Char.isDigit && Decimal.ofDigits cs < 256 &&
    (cs.head? != some '0' || cs.length == 1)

/-- The groups that parts between colons are. The last part may be four numbers between points. -/
def groupsOfParts? : List (List Char) → Option Nat
  | [] => some 0
  | [part] =>
    let octets := Query.splitOn '.' part
    if isGroup part then some 1
    else if octets.length = 4 && octets.all isOctet then some 2
    else none
  | part :: parts => if isGroup part then (groupsOfParts? parts).map (· + 1) else none

/-- The groups that a text is; an empty text is no groups. -/
def groups? (cs : List Char) : Option Nat :=
  if cs.isEmpty then some 0 else groupsOfParts? (Query.splitOn ':' cs)

/-- The texts before and after the first two colons in a row. -/
def splitGap? : List Char → Option (List Char × List Char)
  | ':' :: ':' :: cs => some ([], cs)
  | c :: cs => (splitGap? cs).map fun (before, after) => (c :: before, after)
  | [] => none

def isAddress (cs : List Char) : Bool :=
  match splitGap? cs with
  | none => groups? cs == some 8
  | some (before, after) =>
    !before.contains '.' &&
      match groups? before, groups? after with
      | some m, some n => m + n < 8
      | _, _ => false

/-- What may follow the host: nothing, or a colon with a port. -/
def isPortPart : List Char → Bool
  | [] => true
  | ':' :: ds => !ds.isEmpty && ds.all Char.isDigit && Decimal.ofDigits ds < 0x10000
  | _ => false

def isValid (header : String) : Bool :=
  match header.toList with
  | '[' :: cs =>
    let (address, rest) := cs.span (· != ']')
    isAddress address && !rest.isEmpty && isPortPart (rest.drop 1)
  | cs =>
    let (name, rest) := cs.span (· != ':')
    !name.isEmpty && isName name && isPortPart rest

example : ["a_b.c~d", "%41:065535", "[::1]:80", "[1::2:10.0.0.1]"].all isValid = true := by
  decide +kernel
example : ["", "a b", "h:", "h:99999", "user@h", "%4", "[::zz]", "[1::2::3]", "[::1", "::1"].any
    isValid = false := by
  decide +kernel

end RequestSql.Http.Host
