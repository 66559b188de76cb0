import RequestSql.Check

/-!
# Open strings and parentheses

A finished statement is scanned once for what may be left open: a string in single quotes, a text in
other quotes, or a parenthesis outside both. A doubled quote closes and opens again, so it needs no
look-ahead. The least that a parser can do is to reject a statement with a string or a parenthesis
open at its end.
-/

namespace RequestSql.Lexical

/-- Where the scanner stands. -/
inductive Mode where
  | plain
  | inString
  /-- Between quotes that are not the ones of strings. -/
  | inQuotes (quote : Char)
  deriving DecidableEq, Repr

/-- The mode and the number of open parentheses. -/
structure State where
  mode : Mode := .plain
  depth : Nat := 0
  deriving DecidableEq, Repr

/-- One character, given the quotes beside the ones of strings. A parenthesis that closes nothing is
passed over. -/
def step (quotes : List Char) (s : State) (c : Char) : State :=
  match s.mode with
  | .plain =>
    if c = '\'' then { s with mode := .inString }
    else if c ∈ quotes then { s with mode := .inQuotes c }
    else if c = '(' then { s with depth := s.depth + 1 }
    else if c = ')' then { s with depth := s.depth - 1 }
    else s
  | .inString => if c = '\'' then { s with mode := .plain } else s
  | .inQuotes quote => if c = quote then { s with mode := .plain } else s

def scan (quotes : List Char) (s : State) (cs : List Char) : State := cs.foldl (step quotes) s

@[simp] theorem scan_nil (quotes : List Char) (s : State) : scan quotes s [] = s := rfl

@[simp] theorem scan_append (quotes : List Char) (s : State) (a b : List Char) :
    scan quotes s (a ++ b) = scan quotes (scan quotes s a) b := by
  simp [scan]

/-- A string or a parenthesis is open at the end of the text. -/
def isOpen (quotes cs : List Char) : Bool :=
  let s := scan quotes {} cs
  s.mode = .inString || 0 < s.depth

/-- What is said against a statement that is open at its end. -/
inductive Finding where
  | malformed
  deriving DecidableEq, Repr

def Finding.message : Finding → String
  | .malformed => "unterminated string or parenthesis"

/-- The parser that rejects a statement exactly if it is open at its end. -/
def rejectOpen (quotes : Grammar → List Char) : Parser := fun g sql =>
  if isOpen (quotes g) sql.toList then some Finding.malformed.message else none

/-- The quotes beside the ones of strings in each grammar. -/
def quotesOf : Grammar → List Char
  | .mysql | .sqlite => ['`', '"']
  | .postgres => ['"']

def parse : Parser := rejectOpen quotesOf

end RequestSql.Lexical
