import RequestSql.Scalar
import RequestSql.Text.Replace

/-!
# Dialects

Statements are laid out alike in every dialect. A dialect decides only how identifiers are quoted
and how truth values are spelled.
-/

namespace RequestSql

/-- How one dialect quotes identifiers and spells truth values. -/
structure Dialect where
  name : String
  /-- The text on either side of an identifier: one character as a rule, but any text will do. -/
  quote : String
  trueText : String := "1"
  falseText : String := "0"
  deriving DecidableEq, Repr

namespace Dialect

/-- Backticks, and truth values as numbers. -/
def mysql : Dialect where
  name := "mysql"
  quote := "`"

/-- Double quotes, and truth values as words. -/
def postgres : Dialect where
  name := "postgres"
  quote := "\""
  trueText := "TRUE"
  falseText := "FALSE"

/-- Backticks, and truth values as numbers; checked by its own grammar. -/
def sqlite : Dialect where
  name := "sqlite"
  quote := "`"

/-- A quoted identifier: the name with every quote in it doubled, between two quotes. -/
def identifier (d : Dialect) (name : String) : String :=
  d.quote ++ String.ofList (Text.doubled d.quote.toList name.toList) ++ d.quote

def boolText (d : Dialect) (b : Bool) : String := if b then d.trueText else d.falseText

/-- A string literal: the text with every single quote in it doubled, between single quotes. -/
def stringLiteral (s : String) : String :=
  "'" ++ String.ofList (Text.doubled ['\''] s.toList) ++ "'"

def literal (d : Dialect) : Scalar → String
  | .null => "NULL"
  | .bool b => d.boolText b
  | .number n => n.literal
  | .text s => stringLiteral s

@[simp] theorem toList_identifier (d : Dialect) (name : String) :
    (d.identifier name).toList =
      d.quote.toList ++ Text.doubled d.quote.toList name.toList ++ d.quote.toList := by
  simp [identifier]

@[simp] theorem toList_stringLiteral (s : String) :
    (stringLiteral s).toList = '\'' :: (Text.doubled ['\''] s.toList ++ ['\'']) := by
  simp [stringLiteral]

end Dialect

end RequestSql
