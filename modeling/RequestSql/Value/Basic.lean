import RequestSql.Scalar

/-!
# Values

A request arrives as a value of no fixed shape. Maps keep the order of their entries, and their keys
may be any value that is not itself a list or a map.
-/

namespace RequestSql

/-- A value of no fixed shape. -/
inductive Value where
  | null
  | bool (b : Bool)
  | int (n : Int)
  | float (x : Double)
  | decimal (d : Decimal)
  | bytes (bs : List UInt8)
  | text (s : String)
  | list (items : List Value)
  | tuple (items : List Value)
  | map (entries : List (Value × Value))
  /-- A value that has been classified already. -/
  | scalar (s : Scalar)
  deriving Inhabited

namespace Value

/-- The name of the kind of a value, for messages. -/
def kind : Value → String
  | .null => "NoneType"
  | .bool _ => "bool"
  | .int _ => "int"
  | .float _ => "float"
  | .decimal _ => "decimal.Decimal"
  | .bytes _ => "bytes"
  | .text _ => "str"
  | .list _ => "list"
  | .tuple _ => "tuple"
  | .map _ => "dict"
  | .scalar .null => "NullValue"
  | .scalar (.bool _) => "BoolValue"
  | .scalar (.number _) => "NumberValue"
  | .scalar (.text _) => "TextValue"

/-- The name of the kind without the module that declares it. -/
def shortKind (v : Value) : String :=
  match v with
  | .decimal _ => "Decimal"
  | v => v.kind

/-- A value counts as true unless it is null, false, a zero or empty. -/
def isTruthy : Value → Bool
  | .null => false
  | .bool b => b
  | .int n => n != 0
  | .float x => !x.isZero
  | .decimal d => !d.isZero
  | .bytes bs => !bs.isEmpty
  | .text s => s != ""
  | .list items => !items.isEmpty
  | .tuple items => !items.isEmpty
  | .map entries => !entries.isEmpty
  | .scalar _ => true

end Value

end RequestSql
