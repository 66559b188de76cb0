import RequestSql.Value.Display

/-!
# Classifying values

A raw value becomes a scalar once, when it is filed. Truth values are told apart from numbers, and
whatever is neither null, truth value, number nor text is filed as its display.
-/

namespace RequestSql

namespace Scalar

def ofValue : Value → Scalar
  | .null => .null
  | .scalar s => s
  | .bool b => .bool b
  | .int n => .number (.int n)
  | .float x => .number (.float x)
  | .decimal d => .number (.decimal d)
  | .text s => .text s
  | v => .text v.display

def toValue : Scalar → Value
  | .null => .null
  | .bool b => .bool b
  | .number (.int n) => .int n
  | .number (.float x) => .float x
  | .number (.decimal d) => .decimal d
  | .number (.truth b) => .bool b
  | .text s => .text s

/-- A scalar whose number, if it is one, is not a truth value. -/
def IsPlain (s : Scalar) : Prop := ∀ b, s ≠ .number (.truth b)

/-- Filing the plain value of a scalar gives the scalar back. -/
theorem ofValue_toValue {s : Scalar} (h : s.IsPlain) : ofValue s.toValue = s := by
  match s with
  | .null | .bool _ | .text _ => rfl
  | .number (.int _) | .number (.float _) | .number (.decimal _) => rfl
  | .number (.truth b) => exact absurd rfl (h b)

end Scalar

namespace Value

/-- The value has items or entries, so that it is filed as its display. -/
def isCompound : Value → Bool
  | .list _ | .tuple _ | .map _ => true
  | _ => false

/-- The value can be filed as a scalar: it needs no display, or it has one. -/
def isFileable (v : Value) : Bool := !(v.isCompound && v.hasLongInteger)

end Value

end RequestSql
