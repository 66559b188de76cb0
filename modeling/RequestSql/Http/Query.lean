import RequestSql.Text.Hex
import RequestSql.Text.Utf8

/-!
# Queries

A query is a list of parameters `name=value` between ampersands. A plus sign is a blank, and a byte
may be written as two hexadecimal digits after a percent sign. Of several parameters of one name the
last one counts.
-/

namespace RequestSql.Http.Query

def splitOn (separator : Char) : List Char → List (List Char)
  | [] => [[]]
  | c :: cs =>
    if c = separator then [] :: splitOn separator cs
    else match splitOn separator cs with
      | [] => [[c]]
      | part :: parts => (c :: part) :: parts

def byte? (high low : Char) : Option UInt8 :=
  match Text.hexValue? high, Text.hexValue? low with
  | some h, some l => some (UInt8.ofNat (16 * h + l))
  | _, _ => none

/-- The bytes of ASCII characters with percent signs resolved. A percent sign without two digits
stands for itself. -/
def unescape : List Char → List UInt8
  | [] => []
  | '%' :: high :: low :: cs =>
    match byte? high low with
    | some b => b :: unescape cs
    | none => UInt8.ofNat '%'.toNat :: unescape (high :: low :: cs)
  | c :: cs => UInt8.ofNat c.toNat :: unescape cs

/-- Decodes the runs of ASCII characters of a text; the first argument holds the current run,
backwards. Other characters stand for themselves. -/
def decodeRuns (run : List Char) : List Char → List Char
  | [] => Text.Utf8.decode (unescape run.reverse)
  | c :: cs =>
    if c.toNat < 0x80 then decodeRuns (c :: run) cs
    else Text.Utf8.decode (unescape run.reverse) ++ c :: decodeRuns [] cs

def decode (cs : List Char) : List Char :=
  decodeRuns [] (cs.map fun c => if c = '+' then ' ' else c)

/-- The name and the value of a parameter, split at the first equals sign. -/
def parameter (cs : List Char) : String × String :=
  let (name, rest) := cs.span (· != '=')
  (String.ofList (decode name), String.ofList (decode (rest.drop 1)))

/-- The parameters of a query; empty ones are passed over. -/
def parameters (query : String) : List (String × String) :=
  ((splitOn '&' query.toList).filter fun part => !part.isEmpty).map parameter

/-- The value of the last parameter of a name. -/
def value? (query : String) (name : String) : Option String :=
  (parameters query).reverse.lookup name

example : parameters "a=1&&b&a=p%6F+%zz" = [("a", "1"), ("b", ""), ("a", "po %zz")] := by
  decide +kernel
example : value? "a=1&b&a=2" "a" = some "2" := by decide +kernel

end RequestSql.Http.Query
