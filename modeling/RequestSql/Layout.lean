import RequestSql.Layout.Group

/-!
# Laying a statement out

A statement that is wanted laid out for reading is given to a formatter, which is not part of the
library. Formatters cut a statement into lexemes and put these in groups, and both the lexemes and
the depth of the groups are limited. `Layout.check` tells which limit a statement breaks.
-/

namespace RequestSql

/-- A formatter of statements: the text laid out for reading, or why there is none. -/
abbrev Formatter := String → Except String String

namespace Layout

/-- The most lexemes of a statement that is laid out. -/
def maxLexemes : Nat := 10000

/-- The greatest depth of a statement that is laid out. -/
def maxDepth : Nat := 100

/-- Why a statement cannot be laid out. -/
inductive Problem where
  | tooLong
  | tooDeep
  deriving DecidableEq, Repr

def Problem.message : Problem → String
  | .tooLong => "Maximum number of tokens exceeded (" ++ toString maxLexemes ++ ")."
  | .tooDeep => "Maximum grouping depth exceeded (" ++ toString maxDepth ++ ")."

def check (sql : String) : Option Problem :=
  let ls := Lexeme.take (maxLexemes + 1) '\n' sql.toList
  if maxLexemes < ls.length then some .tooLong
  else if maxDepth < depth ls then some .tooDeep
  else none

/-- The formatter that keeps to the limits and leaves a statement as it is, with one clause a line.
-/
def format : Formatter := fun sql =>
  match check sql with
  | some problem => .error problem.message
  | none => .ok sql

example : depth (Lexeme.take 99 '\n' "((1)) + f('((' || \"(\") = (2".toList) = 5 := by decide +kernel

end Layout

end RequestSql
