import RequestSql.Dialect.Registry
import RequestSql.Lexical
import RequestSql.Request.Read
import RequestSql.Statement.Compile

/-!
# The pipeline

From a raw request to a checked statement: the request is read, its dialect found, the statement
compiled, and the finished text checked by a parser. The check never stops a statement, it only adds
warnings.
-/

namespace RequestSql

/-- The dialect where none is named. -/
def defaultDialect : String := "mysql"

namespace Pipeline

/-- Why there is no statement. -/
inductive Error where
  | invalid (faults : List Fault)
  | lookup (e : Registry.LookupError)
  | compile (e : CompileError)

/-- A statement for a dialect, with what the check found. -/
structure Result where
  statement : Statement
  dialect : String
  findings : List Finding

namespace Result

def warnings (r : Result) : List String := r.findings.map fun f => "SQL validation: " ++ f.message

def isValid (r : Result) : Bool := r.findings.isEmpty

end Result

/-- Compiles a descriptor that was read already. -/
def compileDescriptor (registry : Registry) (validate : Bool) (r : Descriptor) (dialect : Value)
    (parse : Parser) : Except Error Result :=
  match registry.find dialect with
  | .error e => .error (.lookup e)
  | .ok d => match Statement.compile d r with
    | .error e => .error (.compile e)
    | .ok statement => .ok {
        statement
        dialect := d.name
        findings := if validate then check parse statement.sql d.name else [] }

/-- Reads a request and compiles it. -/
def compile (registry : Registry) (validate : Bool) (request dialect : Value)
    (parse : Parser := Lexical.parse) : Except Error Result :=
  match Descriptor.read request with
  | .faulty faults => .error (.invalid faults)
  | .ok r => compileDescriptor registry validate r dialect parse

end Pipeline

end RequestSql
