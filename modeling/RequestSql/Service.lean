import RequestSql.Layout
import RequestSql.Pipeline

/-!
# The service

What the compiler answers depends on two things that change: the dialects that are registered, and
the engine in force, which is whether statements are checked and which dialect is the default. It
also depends on the tools that the service is given, which stay.
-/

namespace RequestSql

/-- How requests are compiled. -/
structure Engine where
  /-- Statements are checked. -/
  validate : Bool := true
  /-- The dialect of a request that names none. -/
  dialect : String := defaultDialect
  deriving DecidableEq, Repr

/-- What a service is given to work with. -/
structure Tools where
  /-- Checks statements. -/
  parse : Parser := Lexical.parse
  /-- Lays statements out for reading. -/
  format : Formatter := Layout.format

/-- The dialects, the engine in force and the tools. -/
structure Service where
  registry : Registry := .builtin
  engine : Option Engine := none
  tools : Tools := {}

namespace Service

def version : String := "0.1.0"

/-- The dialect of a request that names none. -/
def dialect (s : Service) : String := (s.engine.map Engine.dialect).getD defaultDialect

/-- A dialect as it is listed. -/
def listed (d : Dialect) : Value :=
  .map [(.text "name", .text d.name), (.text "quote_char", .text d.quote)]

/-- All dialects with their quotes in the order of their names, and the default one. -/
def listing (s : Service) : Value :=
  .map [
    (.text "dialects", .list (s.registry.available.filterMap fun name =>
      (s.registry.get? name).map listed)),
    (.text "default", .text s.dialect)]

end Service

end RequestSql
