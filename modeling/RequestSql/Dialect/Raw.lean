import RequestSql.Dialect.Basic
import RequestSql.Value.Display

/-!
# Literals of values that were not classified

A value can be written as a truth value, a number or a text without being classified first. Any
value counts as true or false, and any value has a display to stand for a number, but only a text
can be written as a text.
-/

namespace RequestSql.Dialect

/-- Why a value cannot be written as a text. -/
inductive TextError where
  | noText (kind : String)
  | bytes
  deriving DecidableEq, Repr

def TextError.message : TextError → String
  | .noText kind => "'" ++ kind ++ "' object has no attribute 'replace'"
  | .bytes => "a bytes-like object is required, not 'str'"

def rawBool (d : Dialect) (v : Value) : String := d.boolText v.isTruthy

def rawNumber : Value → String
  | .float x => (Number.float x).literal
  | v => v.display

def rawText : Value → Except TextError String
  | .text s => .ok (stringLiteral s)
  | .bytes _ => .error .bytes
  | v => .error (.noText v.kind)

end RequestSql.Dialect
