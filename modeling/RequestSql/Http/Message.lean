import RequestSql.Text.Half
import RequestSql.Text.Quoted
import RequestSql.Value.Basic

/-!
# HTTP messages

A request as it comes over the wire, and the reply to it. Headers and queries are texts with one
character a byte; a body comes in chunks.
-/

namespace RequestSql.Http

/-- A request. -/
structure Request where
  method : String
  path : String
  query : String := ""
  headers : List (String × String) := []
  chunks : List ByteArray := []

namespace Request

/-- The first header of a name, which counts in any letter case. -/
def header? (r : Request) (name : String) : Option String :=
  (r.headers.find? fun h => h.1.map Char.toLower == name).map Prod.snd

end Request

/-- The body of a reply. -/
inductive Content where
  | json (v : Value)
  | text (s : String)

/-- A reply. -/
structure Reply where
  status : Nat
  content : Content
  /-- The methods that would be allowed. -/
  allow : Option String := none
  /-- Where to go instead. -/
  location : Option String := none
  /-- The reply tells how long it took. -/
  timed : Bool := true

/-- What ends a request without a reply of its own. -/
inductive Crash where
  /-- A declared length with more digits than are read. -/
  | longLength (digits : Nat)
  /-- A declared length of digits that are not all decimal. -/
  | unreadableLength (text : String)
  /-- No pipeline is in force. -/
  | noPipeline
  /-- A number of a reply is not finite. -/
  | notFinite
  /-- The text of a reply has halves of pairs. -/
  | halves (h : Text.Halves)
  /-- A text inside a result has halves of pairs. -/
  | halvesInside (h : Text.Halves)
  /-- A statement cannot be laid out for reading. -/
  | layout (message : String)
  deriving DecidableEq, Repr

def noPipelineMessage : String :=
  "CompilationPipeline not initialised — call init_pipeline() first"

namespace Crash

def message : Crash → String
  | .longLength digits =>
    "Exceeds the limit (" ++ toString Decimal.maxDigits ++
      " digits) for integer string conversion: value has " ++ toString digits ++
      " digits; use sys.set_int_max_str_digits() to increase the limit"
  | .unreadableLength text =>
    "invalid literal for int() with base 10: " ++
      String.ofList ((Text.quoted text.toList).take 200)
  | .noPipeline => noPipelineMessage
  | .notFinite => "Out of range float values are not JSON compliant"
  | .halves h => h.message
  | .halvesInside h => "Error serializing to JSON: UnicodeEncodeError: " ++ h.message
  | .layout message => message

/-- The reply that stands in after a crash. -/
def reply : Reply where
  status := 500
  content := .text "Internal Server Error"
  timed := false

end Crash

end RequestSql.Http
