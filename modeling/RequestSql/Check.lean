/-!
# The check of a statement

A finished statement is parsed in the grammar of its dialect. The parser is not part of the library:
the check is given one, and passes its message on.
-/

namespace RequestSql

/-- The grammars that statements are parsed in. -/
inductive Grammar where
  | mysql | postgres | sqlite
  deriving DecidableEq, Repr

/-- The grammar of the dialects of a name. -/
def Grammar.ofName? (dialect : String) : Option Grammar :=
  [("mysql", mysql), ("postgres", postgres), ("sqlite", sqlite)].lookup dialect

/-- A parser of statements: the message about a text that it rejects, nothing for one that it
accepts. -/
abbrev Parser := Grammar → String → Option String

/-- What the check finds. -/
inductive Finding where
  /-- The parser rejects the statement. -/
  | rejected (message : String)
  /-- There is no grammar of that name. -/
  | unknownDialect (name : String)
  deriving DecidableEq, Repr

def Finding.message : Finding → String
  | .rejected message => message
  | .unknownDialect name =>
    "Unknown dialect '" ++ name ++ "' — skipping SQL validation"

def check (parse : Parser) (sql dialect : String) : List Finding :=
  match Grammar.ofName? dialect with
  | none => [.unknownDialect dialect]
  | some g => ((parse g sql).map Finding.rejected).toList

end RequestSql
