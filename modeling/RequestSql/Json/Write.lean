import RequestSql.Text.Half
import RequestSql.Value.Display

/-!
# Writing JSON

`Json.written` is the shortest JSON text of a value: no blanks, and no escapes but the ones that
strings need. Kinds of values that JSON does not have are written as their display in a string.
-/

namespace RequestSql.Json

def escaped (c : Char) : List Char :=
  match c with
  | '"' => ['\\', '"']
  | '\\' => ['\\', '\\']
  | '\n' => ['\\', 'n']
  | '\r' => ['\\', 'r']
  | '\t' => ['\\', 't']
  | '\x08' => ['\\', 'b']
  | '\x0c' => ['\\', 'f']
  | c => if c.toNat < 0x20 then '\\' :: 'u' :: Text.hex 4 c.toNat else [c]

def quoted (s : String) : List Char := '"' :: (s.toList.flatMap escaped ++ ['"'])

mutual

def written : Value → List Char
  | .null => "null".toList
  | .bool b => (if b then "true" else "false").toList
  | .int n => Decimal.signedDigits n
  | .float x => x.chars
  | .text s => quoted s
  | .list [] | .tuple [] => "[]".toList
  | .list (v :: vs) | .tuple (v :: vs) => '[' :: written v ++ writtenItems vs ++ [']']
  | .map [] => "\x7b\x7d".toList
  | .map ((k, v) :: es) =>
    '\x7b' :: quoted k.display ++ ':' :: written v ++ writtenEntries es ++ ['\x7d']
  | v => quoted v.display

/-- Further items, each after a comma. -/
def writtenItems : List Value → List Char
  | [] => []
  | v :: vs => ',' :: written v ++ writtenItems vs

/-- Further entries, each after a comma. -/
def writtenEntries : List (Value × Value) → List Char
  | [] => []
  | (k, v) :: es => ',' :: quoted k.display ++ ':' :: written v ++ writtenEntries es

end

example : written (.map [(.text "a\n", .list [.int 1, .null]), (.text "b", .bool true)]) =
    "\x7b\"a\\n\":[1,null],\"b\":true\x7d".toList := by
  decide +kernel

end RequestSql.Json
