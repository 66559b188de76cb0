import RequestSql.Request.Coerce
import RequestSql.Statement.Refusal
import RequestSql.Value.Classify
import RequestSql.Value.Key

/-!
# Envelopes

Answers have one shape: rows on success, a code and a message on failure. No rows are an empty list,
a single row stands for itself, and several rows are a list.
-/

namespace RequestSql

/-- What went wrong. -/
structure ErrorBody where
  code : String
  message : String
  details : Value := .null

/-- An error as a map, with its details as they stand. -/
def ErrorBody.toValue (b : ErrorBody) : Value :=
  .map [(.text "code", .text b.code), (.text "message", .text b.message),
    (.text "details", b.details)]

/-- Rows or an error. -/
structure Envelope where
  success : Bool
  data : Value := .null
  error : Option ErrorBody := none

namespace Value

def partsOfScalar : Scalar → Value
  | .null => .map []
  | s => .map [(.text "value", s.toValue)]

mutual

/-- The value with classified values opened up into maps of their parts. Where that leaves a map with
a key that is no key, there is no such value. -/
def opened : Value → Except KeyFault Value
  | .list vs => (openedItems vs).map .list
  | .tuple vs => (openedItems vs).map .tuple
  | .map es => (openedEntries [] es).map .map
  | .scalar s => .ok (partsOfScalar s)
  | v => .ok v

def openedItems : List Value → Except KeyFault (List Value)
  | [] => .ok []
  | v :: vs => do
    let v ← opened v
    let vs ← openedItems vs
    return v :: vs

/-- The entries of a map, opened up after the ones before them. -/
def openedEntries (found : List (Value × Value)) :
    List (Value × Value) → Except KeyFault (List (Value × Value))
  | [] => .ok found
  | (k, v) :: es => do
    let k ← opened k
    let v ← opened v
    let found ← putEntry? k v found
    openedEntries found es

end

/-- The parts of a value that can be gone through: characters, bytes, items or keys. -/
def parts? : Value → Option (List Value)
  | .text s => some (s.toList.map fun c => .text (String.singleton c))
  | .bytes bs => some (bs.map fun b => .int b.toNat)
  | .list vs | .tuple vs => some vs
  | .map es => some (es.map Prod.fst)
  | _ => none

end Value

namespace Envelope

/-- Why rows cannot be wrapped. -/
inductive RowsError where
  | noLength (kind : String)
  | notIterable (kind : String)
  | notSequence (index : Nat)
  | notPair (index length : Nat)
  | noKey (fault : KeyFault)

def RowsError.message : RowsError → String
  | .noLength kind => "object of type '" ++ kind ++ "' has no len()"
  | .notIterable kind => "'" ++ kind ++ "' object is not iterable"
  | .notSequence index =>
    "cannot convert dictionary update sequence element #" ++ toString index ++ " to a sequence"
  | .notPair index length =>
    "dictionary update sequence element #" ++ toString index ++ " has length " ++
      toString length ++ "; 2 is required"
  | .noKey fault => fault.message

/-- Builds a map from parts that should be pairs of key and value, from a position on. -/
def rowOfPairs : Nat → List Value → List (Value × Value) → Except RowsError (List (Value × Value))
  | _, [], row => .ok row
  | i, v :: vs, row => match v.parts? with
    | none => .error (.notSequence i)
    | some [key, value] => match Value.putEntry? key value row with
      | .error fault => .error (.noKey fault)
      | .ok row => rowOfPairs (i + 1) vs row
    | some parts => .error (.notPair i parts.length)

/-- One row: a map as it is, or pairs of key and value. -/
def row (v : Value) : Except RowsError Value :=
  match v with
  | .map es => .ok (.map es)
  | v => match v.parts? with
    | none => .error (.notIterable v.kind)
    | some parts => (rowOfPairs 0 parts []).map .map

def ofRows (rows : Value) : Except RowsError Envelope :=
  if !rows.isTruthy then .ok { success := true, data := .list [] }
  else match rows with
    | .map es => .ok { success := true, data := .map es }
    | rows => match rows.parts? with
      | none => .error (.noLength rows.kind)
      | some [only] => (row only).map fun data => { success := true, data }
      | some many => (many.mapM row).map fun rows => { success := true, data := .list rows }

def ofError (body : ErrorBody) : Envelope := { success := false, error := some body }

/-- The envelope of an error whose code and message have no fixed shape yet. -/
def readError (code message details : Value) : Reading Envelope :=
  Reading.ok (fun code message => ofError { code, message, details })
    |>.ap (.text [.name "code"] code)
    |>.ap (.text [.name "message"] message)

def ofRefusal (r : Refusal) : Envelope := ofError { code := r.code, message := r.message }

/-- An envelope as a map, with what it holds as it stands. -/
def toValue (e : Envelope) : Value :=
  .map [(.text "success", .bool e.success), (.text "data", e.data),
    (.text "error", match e.error with
      | none => .null
      | some b => b.toValue)]

def plain (e : Envelope) : Except KeyFault Value := e.toValue.opened

end Envelope

end RequestSql
