import RequestSql.Value.Basic

/-!
# Faults of a reading

A value that does not have the shape it should have is at fault in one or more places. A fault tells
the kind of the mismatch, the path to it and the value found there. A `Reading` is the thing read or
all faults in the order of the places.
-/

namespace RequestSql

/-- One step of a path into a value. -/
inductive PathStep where
  | name (s : String)
  | index (n : Int)
  deriving DecidableEq, Repr

/-- A kind of mismatch. -/
inductive FaultKind where
  | notText
  /-- Bytes that are no text. -/
  | notUnicode
  | notMap
  | notList
  /-- Neither a map nor the named record. -/
  | notRecord (model : String)
  /-- As `notRecord`, where the fields of any object would do. -/
  | notAttributes
  | missing
  /-- A key of a record that is no text. -/
  | keyNotText
  | notBool
  | boolText
  | notInt
  | intText
  | intTooLarge
  | intFraction
  | notFinite
  /-- No mismatch of form: a value that must be written out has an integer that is too long. -/
  | longInteger
  deriving DecidableEq, Repr

namespace FaultKind

def code : FaultKind → String
  | .notText => "string_type"
  | .notUnicode => "string_unicode"
  | .notMap => "dict_type"
  | .notList => "list_type"
  | .notRecord _ => "model_type"
  | .notAttributes => "model_attributes_type"
  | .missing => "missing"
  | .keyNotText => "invalid_key"
  | .notBool => "bool_type"
  | .boolText => "bool_parsing"
  | .notInt => "int_type"
  | .intText => "int_parsing"
  | .intTooLarge => "int_parsing_size"
  | .intFraction => "int_from_float"
  | .notFinite => "finite_number"
  | .longInteger => "value_error"

def message : FaultKind → String
  | .notText => "Input should be a valid string"
  | .notUnicode => "Input should be a valid string, unable to parse raw data as a unicode string"
  | .notMap => "Input should be a valid dictionary"
  | .notList => "Input should be a valid list"
  | .notRecord model => "Input should be a valid dictionary or instance of " ++ model
  | .notAttributes => "Input should be a valid dictionary or object to extract fields from"
  | .missing => "Field required"
  | .keyNotText => "Keys should be strings"
  | .notBool => "Input should be a valid boolean"
  | .boolText => "Input should be a valid boolean, unable to interpret input"
  | .notInt => "Input should be a valid integer"
  | .intText => "Input should be a valid integer, unable to parse string as an integer"
  | .intTooLarge => "Unable to parse input string as an integer, exceeded maximum size"
  | .intFraction => "Input should be a valid integer, got a number with a fractional part"
  | .notFinite => "Input should be a finite number"
  | .longInteger => "Exceeds the limit (" ++ toString Decimal.maxDigits ++
    " digits) for integer string conversion; use sys.set_int_max_str_digits() to increase the limit"

end FaultKind

/-- A mismatch at a place. -/
structure Fault where
  kind : FaultKind
  path : List PathStep
  input : Value

/-- The thing read, or the faults of its parts. -/
inductive Reading (α : Type) where
  | ok (a : α)
  | faulty (faults : List Fault)

namespace Reading

variable {α β : Type}

def fault (kind : FaultKind) (path : List PathStep) (input : Value) : Reading α :=
  .faulty [⟨kind, path, input⟩]

def map (f : α → β) : Reading α → Reading β
  | .ok a => .ok (f a)
  | .faulty es => .faulty es

def mapFaults (f : Fault → Fault) : Reading α → Reading α
  | .ok a => .ok a
  | .faulty es => .faulty (es.map f)

/-- Applies what was read on the left to what was read on the right, keeping the faults of both. -/
def ap : Reading (α → β) → Reading α → Reading β
  | .ok f, .ok a => .ok (f a)
  | .ok _, .faulty es => .faulty es
  | .faulty es, .ok _ => .faulty es
  | .faulty es, .faulty fs => .faulty (es ++ fs)

/-- Reads the items of a list with their positions, from a first position on. -/
def each (read : Nat → α → Reading β) : Nat → List α → Reading (List β)
  | _, [] => .ok []
  | i, a :: as => (Reading.ok List.cons).ap (read i a) |>.ap (each read (i + 1) as)

/-- The first of several readings that succeeds, or the faults of all. -/
def firstOf : List (Reading α) → Reading α
  | [] => .faulty []
  | .ok a :: _ => .ok a
  | .faulty es :: rest => match firstOf rest with
    | .ok a => .ok a
    | .faulty fs => .faulty (es ++ fs)

def isOk : Reading α → Bool
  | .ok _ => true
  | .faulty _ => false

theorem ap_eq_ok_iff {f : Reading (α → β)} {a : Reading α} {b : β} :
    f.ap a = .ok b ↔ ∃ g x, f = .ok g ∧ a = .ok x ∧ g x = b := by
  cases f <;> cases a <;> simp [ap]

@[simp] theorem isOk_ok (a : α) : (Reading.ok a).isOk = true := rfl

@[simp] theorem isOk_map (f : α → β) (a : Reading α) : (a.map f).isOk = a.isOk := by
  cases a <;> rfl

/-- A reading succeeds exactly when both of its parts do. -/
@[simp] theorem isOk_ap (f : Reading (α → β)) (a : Reading α) :
    (f.ap a).isOk = (f.isOk && a.isOk) := by
  cases f <;> cases a <;> rfl

theorem isOk_firstOf (rs : List (Reading α)) : (firstOf rs).isOk = rs.any isOk := by
  induction rs with
  | nil => rfl
  | cons r rs ih => cases r <;> grind [firstOf, isOk]

end Reading

end RequestSql
