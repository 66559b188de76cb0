import RequestSql.Number

/-!
# Scalars

What a statement can hold as a value: null, a truth value, a number or a text.
-/

namespace RequestSql

/-- A value of a statement. -/
inductive Scalar where
  | null
  | bool (b : Bool)
  | number (n : Number)
  | text (s : String)
  deriving DecidableEq, Repr, Inhabited

end RequestSql
