import RequestSql.Text.Quoted
import RequestSql.Value.Basic

/-!
# The display of a value

`Value.shown` writes any value so that its kind can be told: texts in quotes, lists in square
brackets, maps in braces. `Value.display` is the same, but shows a text as itself. A value with an
integer of too many digits in it has no display, which `Value.hasLongInteger` tells.
-/

namespace RequestSql

namespace Number

/-- A number inside the display of a classified value. -/
def shown : Number → List Char
  | .int n => Decimal.signedDigits n
  | .float x => x.chars
  | .decimal d => "Decimal('".toList ++ d.chars ++ "')".toList
  | .truth b => (if b then "True" else "False").toList

/-- The number is an integer with more digits than are written out. -/
def isLong : Number → Bool
  | .int n => Decimal.maxDigits < (Decimal.digits n.natAbs).length
  | _ => false

end Number

namespace Scalar

def shown : Scalar → List Char
  | .null => "NullValue()".toList
  | .bool b => "BoolValue(value=".toList ++ (if b then "True" else "False").toList ++ [')']
  | .number n => "NumberValue(value=".toList ++ n.shown ++ [')']
  | .text s => "TextValue(value=".toList ++ Text.quoted s.toList ++ [')']

end Scalar

namespace Value

mutual

/-- The display of a value inside another. -/
def shown : Value → List Char
  | .null => "None".toList
  | .bool b => (Number.truth b).shown
  | .int n => (Number.int n).shown
  | .float x => (Number.float x).shown
  | .decimal d => (Number.decimal d).shown
  | .bytes bs => Text.quotedBytes bs
  | .text s => Text.quoted s.toList
  | .list [] => "[]".toList
  | .list (v :: vs) => '[' :: shown v ++ shownItems vs ++ [']']
  | .tuple [] => "()".toList
  | .tuple [v] => '(' :: shown v ++ ",)".toList
  | .tuple (v :: vs) => '(' :: shown v ++ shownItems vs ++ [')']
  | .map [] => "\x7b\x7d".toList
  | .map ((k, v) :: es) => '\x7b' :: shown k ++ ": ".toList ++ shown v ++ shownEntries es ++ ['\x7d']
  | .scalar s => s.shown

/-- Further items of a list, each after a comma. -/
def shownItems : List Value → List Char
  | [] => []
  | v :: vs => ", ".toList ++ shown v ++ shownItems vs

/-- Further entries of a map, each after a comma. -/
def shownEntries : List (Value × Value) → List Char
  | [] => []
  | (k, v) :: es => ", ".toList ++ shown k ++ ": ".toList ++ shown v ++ shownEntries es

end

/-- The display of a value on its own. -/
def display : Value → String
  | .text s => s
  | .decimal d => d.text
  | v => String.ofList v.shown

mutual

/-- A part of the value is an integer with more digits than are written out. -/
def hasLongInteger : Value → Bool
  | .int n => (Number.int n).isLong
  | .scalar (.number n) => n.isLong
  | .list vs | .tuple vs => anyLongInteger vs
  | .map es => anyLongEntry es
  | _ => false

def anyLongInteger : List Value → Bool
  | [] => false
  | v :: vs => hasLongInteger v || anyLongInteger vs

/-- The key or the value of an entry has a part that is too long. -/
def anyLongEntry : List (Value × Value) → Bool
  | [] => false
  | (k, v) :: es => hasLongInteger k || hasLongInteger v || anyLongEntry es

end

end Value

end RequestSql
