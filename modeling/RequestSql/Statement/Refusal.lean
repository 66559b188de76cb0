/-!
# Refusals

Why a descriptor gets no statement. Each refusal has a code that does not change with its wording.
-/

namespace RequestSql

/-- Why a descriptor is refused. -/
inductive Refusal where
  /-- No table was named. -/
  | missingTable
  | unsupportedMethod (method : String)
  /-- A write without fields. -/
  | emptyBody (method : String)
  /-- An update or deletion that nothing would bound. -/
  | missingIdentifier (method : String)
  /-- A refusal that has only a wording. -/
  | other (message : String)
  deriving DecidableEq, Repr

namespace Refusal

def code : Refusal → String
  | .missingTable => "MISSING_TABLE"
  | .unsupportedMethod _ => "UNSUPPORTED_METHOD"
  | .emptyBody _ => "EMPTY_BODY"
  | .missingIdentifier _ => "MISSING_IDENTIFIER"
  | .other _ => "COMPILE_ERROR"

def message : Refusal → String
  | .missingTable => "Table name is required. Provide it in 'table' or in 'params.table'"
  | .unsupportedMethod m =>
    "Unsupported HTTP method: " ++ m ++ ". Supported: GET, POST, PUT, PATCH, DELETE"
  | .emptyBody m => m ++ " request requires body data with at least one field"
  | .missingIdentifier m =>
    m ++ " request requires path parameters (e.g., id) to identify the record"
  | .other message => message

/-- The method that was refused, where a refusal has one. -/
def method? : Refusal → Option String
  | .unsupportedMethod m | .emptyBody m | .missingIdentifier m => some m
  | .missingTable | .other _ => none

end Refusal

end RequestSql
