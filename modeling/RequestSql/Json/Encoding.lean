import RequestSql.Text.Half

/-!
# The encoding of a JSON text

A JSON text starts with two ASCII characters, so the zeros among its first four bytes tell how wide
its units are and which end of a unit comes first. A mark of the byte order in UTF-8 is dropped.
-/

namespace RequestSql.Json

/-- How units stand in bytes. -/
inductive Encoding where
  | utf8
  | utf16 (bigEndian : Bool)
  | utf32 (bigEndian : Bool)
  deriving DecidableEq, Repr

/-- The encoding of bytes, by their zeros. -/
def Encoding.detect : List UInt8 → Encoding
  | a :: b :: c :: d :: _ =>
    if a = 0 then (if b = 0 then .utf32 true else .utf16 true)
    else if b = 0 then (if c = 0 ∧ d = 0 then .utf32 false else .utf16 false)
    else .utf8
  | [a, b] => if a = 0 then .utf16 true else if b = 0 then .utf16 false else .utf8
  | _ => .utf8

/-- The numbers of characters, from codes that are given backwards, before the ones found already. Two
halves that meet are one character. -/
def ofCodes (found : List Nat) : List Nat → List Nat
  | [] => found
  | [a] => a :: found
  | b :: a :: rest =>
    if Text.isHighHalf a && Text.isLowHalf b then ofCodes (Text.joined a b :: found) rest
    else ofCodes (b :: found) (a :: rest)

/-- The units of two bytes, backwards. -/
def units16? (bigEndian : Bool) (found : List Nat) : List UInt8 → Option (List Nat)
  | [] => some found
  | a :: b :: rest =>
    let unit := if bigEndian then a.toNat * 256 + b.toNat else b.toNat * 256 + a.toNat
    units16? bigEndian (unit :: found) rest
  | _ => none

/-- The units of four bytes, backwards. -/
def units32? (bigEndian : Bool) (found : List Nat) : List UInt8 → Option (List Nat)
  | [] => some found
  | a :: b :: c :: d :: rest =>
    let number (ds : List UInt8) := ds.foldl (fun n d => n * 256 + d.toNat) 0
    let unit := number (if bigEndian then [a, b, c, d] else [d, c, b, a])
    if unit < 0x110000 then units32? bigEndian (unit :: found) rest else none
  | _ => none

/-- The numbers of the characters of UTF-8 bytes, less a mark of the byte order. -/
def ofUtf8? (bytes : ByteArray) : Option (List Nat) :=
  (String.fromUTF8? bytes).map fun s => match s.toList.map Char.toNat with
    | 0xFEFF :: ns => ns
    | ns => ns

/-- The numbers of the characters of bytes in whatever encoding they are. Halves of pairs may be
among them. -/
def numbersOf? (bytes : ByteArray) : Option (List Nat) :=
  match Encoding.detect (bytes.extract 0 4).toList with
  | .utf8 => ofUtf8? bytes
  | .utf16 big => (units16? big [] bytes.toList).map (ofCodes [])
  | .utf32 big => (units32? big [] bytes.toList).map List.reverse

example : numbersOf? "[1]".toUTF8 = some [0x5B, 0x31, 0x5D] := by decide +kernel
example : numbersOf? ⟨#[0, 0x5B, 0, 0x5D]⟩ = some [0x5B, 0x5D] := by decide +kernel
example : ofCodes [] [0x61, 0xDE00, 0xD83D, 0xD83D] = [0xD83D, 0x1F600, 0x61] := by decide

end RequestSql.Json
