import RequestSql.Settings.Coerce
import RequestSql.Settings.EnvFile
import RequestSql.Pipeline

/-!
# Settings

The configuration of the service. Each setting comes from the first source that has it: the caller,
the environment, a file of variables, or its default. Names count in any letter case.
-/

namespace RequestSql

/-- The configuration of the service. -/
structure Settings where
  logLevel : String := "INFO"
  host : String := "localhost"
  apiPort : Int := 8000
  /-- Comes before `apiPort`. -/
  port : Option Int := none
  dialect : String := defaultDialect
  validate : Bool := true
  deriving DecidableEq, Repr

namespace Settings

def effectivePort (s : Settings) : Int := s.port.getD s.apiPort

/-- Where settings come from. -/
structure Sources where
  /-- Set by the caller. -/
  given : Fields Value := .empty
  environment : Fields String := .empty
  /-- The text of a file of variables. -/
  file : String := ""

/-- A name in lower case. Only names of ASCII letters are looked up, so no other letters count. -/
def lowerName (s : String) : String := s.map Char.toLower

/-- Entries by their names in lower case; of names that become the same the last one counts. -/
def lowered {α : Type} (fs : Fields α) : Fields α :=
  .ofList (fs.entries.map fun (n, v) => (lowerName n, v))

/-- What the caller set a setting to. Its exact name comes first. -/
def given? (s : Sources) (name : String) : Option Value :=
  (s.given.get? name).or ((lowered s.given).get? name)

/-- What the environment or else the file sets a setting to. -/
def surrounding? (s : Sources) (name : String) : Option String :=
  ((lowered s.environment).get? name).or
    ((lowered (EnvFile.read s.environment s.file)).get? name).join

/-- The value of a setting in the first source that has it. -/
def lookup (s : Sources) (name : String) : Option Value :=
  (given? s name).or ((surrounding? s name).map .text)

def withDefault {α : Type} (default : α) (read : Value → Reading α) : Option Value → Reading α
  | none => .ok default
  | some v => read v

def optionalInt (path : List PathStep) : Value → Reading (Option Int)
  | .null => .ok none
  | v => (Reading.int path v).map some

def read (s : Sources) : Reading Settings :=
  let default : Settings := {}
  let part {α : Type} (name : String) (d : α) (f : List PathStep → Value → Reading α) :=
    withDefault d (f [.name name]) (lookup s name)
  Reading.ok Settings.mk
    |>.ap (part "log_level" default.logLevel .text)
    |>.ap (part "api_server_host" default.host .text)
    |>.ap (part "api_server_port" default.apiPort .int)
    |>.ap (part "port" default.port optionalInt)
    |>.ap (part "default_dialect" default.dialect .text)
    |>.ap (part "validate_sql" default.validate .bool)

def toValue (s : Settings) : Value :=
  .map [(.text "log_level", .text s.logLevel), (.text "api_server_host", .text s.host),
    (.text "api_server_port", .int s.apiPort),
    (.text "port", (s.port.map Value.int).getD .null),
    (.text "default_dialect", .text s.dialect), (.text "validate_sql", .bool s.validate)]

end Settings

end RequestSql
