import RequestSql.Json.Read
import RequestSql.Text.Blank
import RequestSql.Text.Utf8
import RequestSql.Value.Half

/-!
# Bodies as values

A body of a JSON media type is read as JSON, and any other body is a text. An empty body is no value.
-/

namespace RequestSql.Http.Body

/-- Why a body has no value. -/
inductive Failure where
  /-- The body is no JSON; the place is counted in characters. -/
  | malformed (problem : Json.Problem) (position : Nat)
  /-- The body cannot be read. -/
  | unreadable
  deriving DecidableEq, Repr

/-- The media type of a header, without its parameters. -/
def mediaType (header : String) : List Char :=
  (Text.trim Text.isSpacing (header.toList.takeWhile (· != ';'))).map Char.toLower

/-- The media type is JSON, or is written in JSON. -/
def isJson (mediaType : List Char) : Bool :=
  let (main, rest) := mediaType.span (· != '/')
  let part := rest.drop 1
  main == "application".toList && !part.contains '/' &&
    (part == "json".toList || "+json".toList.isSuffixOf part)

/-- The value of a body. -/
structure Parsed where
  value : Value
  /-- What stands in for halves of pairs, if the value has any. -/
  block : Option Text.HalfBlock := none

/-- A value with the block that stands in for halves, if it has any. -/
def Parsed.of (block : Text.HalfBlock) (v : Value) : Parsed where
  value := v
  block := if (v.halves? block).isSome then some block else none

/-- Reads bytes as JSON. Halves are held in a block that the text does not use. -/
def readJson (bytes : ByteArray) : Except Failure Parsed :=
  match Json.numbersOf? bytes with
  | none => .error .unreadable
  | some numbers =>
    let pairs := Json.escapedPairs (numbers.map Char.ofNat)
    let block := Text.HalfBlock.unusedIn (numbers ++ pairs)
    let cs := numbers.map block.char
    match Json.read block cs with
    | .ok v => .ok (.of block v)
    | .error (.malformed problem rest) => .error (.malformed problem (Json.position cs rest))
    | .error .longInteger | .error .tooDeep => .error .unreadable

def textOf (bytes : ByteArray) : String :=
  (String.fromUTF8? bytes).getD (String.ofList (Text.Utf8.decode bytes.toList))

def read (contentType : Option String) (bytes : ByteArray) : Except Failure (Option Parsed) :=
  if bytes.isEmpty then .ok none
  else if contentType.any fun header => isJson (mediaType header) then (readJson bytes).map some
  else .ok (some { value := .text (textOf bytes) })

end RequestSql.Http.Body
