import RequestSql.Json.Encoding
import RequestSql.Text.Hex
import RequestSql.Value.Key

/-!
# Lexemes of JSON

Strings, numbers and words, each read from the front of a text. A malformed text is reported with
the text from the place of the fault on, so that the place can be counted.
-/

namespace RequestSql.Json

/-- What is wrong with a text. -/
inductive Problem where
  | expectedValue
  | expectedName
  | expectedColon
  | expectedComma
  | extraData
  | badEscape
  | badCode
  | unterminated
  | controlCharacter
  deriving DecidableEq, Repr

def Problem.message : Problem → String
  | .expectedValue => "Expecting value"
  | .expectedName => "Expecting property name enclosed in double quotes"
  | .expectedColon => "Expecting ':' delimiter"
  | .expectedComma => "Expecting ',' delimiter"
  | .extraData => "Extra data"
  | .badEscape => "Invalid \\escape"
  | .badCode => "Invalid \\uXXXX escape"
  | .unterminated => "Unterminated string starting at"
  | .controlCharacter => "Invalid control character at"

/-- Why a text is not read. -/
inductive Failure where
  /-- The text is no JSON; the text from the fault on is given. -/
  | malformed (problem : Problem) (rest : List Char)
  /-- An integer has more digits than are read. -/
  | longInteger
  /-- Lists and maps are nested deeper than is read. -/
  | tooDeep
  deriving DecidableEq, Repr

abbrev Step (α : Type) := Except Failure (α × List Char)

def isBlank (c : Char) : Bool := c == ' ' || c == '\t' || c == '\n' || c == '\r'

def skip (cs : List Char) : List Char := cs.dropWhile isBlank

def code? (a b c d : Char) : Option Nat :=
  match Text.hexValue? a, Text.hexValue? b, Text.hexValue? c, Text.hexValue? d with
  | some a, some b, some c, some d => some (((a * 16 + b) * 16 + c) * 16 + d)
  | _, _, _, _ => none

/-- The characters that escapes of one letter stand for. -/
def letterEscapes : List (Char × Char) :=
  [('"', '"'), ('\\', '\\'), ('/', '/'), ('b', '\x08'), ('f', '\x0c'), ('n', '\n'), ('r', '\r'),
    ('t', '\t')]

/-- Reads a string after its opening quote. The first argument is the block that stands in for halves,
the second the text from the quote on, the third the codes that were read, backwards. The four
digits of a code need a character after them. -/
def string (block : Text.HalfBlock) (opening : List Char) (codes : List Nat) :
    List Char → Step String
  | [] => .error (.malformed .unterminated opening)
  | '"' :: rest => .ok (String.ofList ((ofCodes [] codes).map block.char), rest)
  | ['\\'] => .error (.malformed .unterminated opening)
  | '\\' :: 'u' :: a :: b :: c :: d :: next :: rest =>
    match code? a b c d with
    | some n => string block opening (n :: codes) (next :: rest)
    | none => .error (.malformed .badCode ('u' :: a :: b :: c :: d :: next :: rest))
  | '\\' :: 'u' :: rest => .error (.malformed .badCode ('u' :: rest))
  | '\\' :: c :: rest =>
    match letterEscapes.lookup c with
    | some e => string block opening (e.toNat :: codes) rest
    | none => .error (.malformed .badEscape ('\\' :: c :: rest))
  | c :: rest =>
    if c.toNat < 0x20 then .error (.malformed .controlCharacter (c :: rest))
    else string block opening (c.toNat :: codes) rest

/-- The number of the character of two escapes in front of a text, if together they are a pair. -/
def escapedPair? : List Char → Option Nat
  | '\\' :: 'u' :: a :: b :: c :: d :: '\\' :: 'u' :: e :: f :: g :: h :: _ =>
    match code? a b c d, code? e f g h with
    | some high, some low =>
      if Text.isHighHalf high && Text.isLowHalf low then some (Text.joined high low) else none
    | _, _ => none
  | _ => none

/-- The numbers of all characters of pairs of escapes in a text. -/
def escapedPairs : List Char → List Nat
  | [] => []
  | c :: cs => (escapedPair? (c :: cs)).toList ++ escapedPairs cs

/-- The digits before the point: a zero stands alone. -/
def wholeDigits (cs : List Char) : List Char × List Char :=
  match cs with
  | '0' :: rest => (['0'], rest)
  | cs => Decimal.spanDigits cs

/-- The digits after a point; a point without digits is not part of the number. -/
def fractionDigits (cs : List Char) : List Char × List Char :=
  match cs with
  | '.' :: rest => match Decimal.spanDigits rest with
    | ([], _) => ([], cs)
    | found => found
  | cs => ([], cs)

/-- The exponent; a mark without digits is not part of the number. -/
def exponent (cs : List Char) : Option Int × List Char :=
  match cs with
  | mark :: rest =>
    if mark = 'e' ∨ mark = 'E' then
      let (negative, digits) := Decimal.spanSign rest
      match Decimal.spanDigits digits with
      | ([], _) => (none, cs)
      | (ds, after) =>
        let n : Int := Decimal.ofDigits ds
        (some (if negative then -n else n), after)
    else (none, cs)
  | [] => (none, [])

/-- Reads a number: an integer, or with a fraction or an exponent a double. -/
def number (cs : List Char) : Step Value :=
  let (negative, body) := match cs with
    | '-' :: ds => (true, ds)
    | ds => (false, ds)
  match wholeDigits body with
  | ([], _) => .error (.malformed .expectedValue cs)
  | (whole, rest) =>
    let (part, rest) := fractionDigits rest
    let (power, rest) := exponent rest
    if part.isEmpty && power.isNone then
      if Decimal.maxDigits < whole.length then .error .longInteger
      else
        let n : Int := Decimal.ofDigits whole
        .ok (.int (if negative then -n else n), rest)
    else
      .ok (.float (.ofDecimal negative (Decimal.ofDigits (whole ++ part))
        (power.getD 0 - part.length)), rest)

def words : List (List Char × Value) :=
  [("null".toList, .null), ("true".toList, .bool true), ("false".toList, .bool false),
    ("NaN".toList, .float .nan), ("Infinity".toList, .float (.infinity false)),
    ("-Infinity".toList, .float (.infinity true))]

def atom (cs : List Char) : Step Value :=
  match words.find? fun w => w.1.isPrefixOf cs with
  | some (word, v) => .ok (v, cs.drop word.length)
  | none => number cs

end RequestSql.Json
