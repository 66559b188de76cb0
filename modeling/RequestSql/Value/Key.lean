import RequestSql.Value.Basic

/-!
# Keys

Two keys of a map are equal when they denote the same number in any spelling, or are the same text,
bytes or null, or tuples of equal keys. A classified value equals only classified values. An
undefined number equals nothing. Lists, maps and signaling numbers cannot be keys.
-/

namespace RequestSql

/-- The number that a key denotes. -/
inductive KeyNumber where
  | undefined
  | infinite (negative : Bool)
  /-- A finite number with no trailing zero in its coefficient. -/
  | finite (negative : Bool) (coefficient : Nat) (exponent : Int)
  deriving DecidableEq

namespace KeyNumber

/-- The key of a finite number, the same for all its spellings. -/
def ofFinite (negative : Bool) (number : Nat × Int) : KeyNumber :=
  let (c, e) := Decimal.reduced number.1 number.2
  .finite (negative && c != 0) c e

def ofDouble (x : Double) : KeyNumber :=
  if x.isNaN then .undefined
  else if !x.isFinite then .infinite x.negative
  else ofFinite x.negative x.exactDecimal

def ofDecimal : Decimal → KeyNumber
  | .finite negative c e => ofFinite negative (c, e)
  | .infinity negative => .infinite negative
  | .nan .. => .undefined

def ofInt (n : Int) : KeyNumber := ofFinite (n < 0) (n.natAbs, 0)

def same : KeyNumber → KeyNumber → Bool
  | .undefined, _ => false
  | a, b => a == b

/-- The number of a number in any of its forms, truth values counting as zero and one. -/
def ofNumber : Number → KeyNumber
  | .int n => ofInt n
  | .float x => ofDouble x
  | .decimal d => ofDecimal d
  | .truth b => ofInt b.toNat

end KeyNumber

def Scalar.sameKey : Scalar → Scalar → Bool
  | .number m, .number n => (KeyNumber.ofNumber m).same (.ofNumber n)
  | a, b => a == b

/-- Why a value cannot be a key. -/
inductive KeyFault where
  /-- A list or a map cannot; the name of the kind is given. -/
  | container (kind : String)
  /-- An undefined number that signals cannot. -/
  | signaling
  deriving DecidableEq, Repr

def KeyFault.message : KeyFault → String
  | .container kind => "unhashable type: '" ++ kind ++ "'"
  | .signaling => "Cannot hash a signaling NaN value"

namespace Value

def keyNumber? : Value → Option KeyNumber
  | .bool b => some (.ofNumber (.truth b))
  | .int n => some (.ofNumber (.int n))
  | .float x => some (.ofNumber (.float x))
  | .decimal d => some (.ofNumber (.decimal d))
  | _ => none

mutual

def sameKey : Value → Value → Bool
  | .null, .null => true
  | .text a, .text b => a == b
  | .bytes a, .bytes b => a == b
  | .scalar a, .scalar b => a.sameKey b
  | .tuple as, .tuple bs => sameKeys as bs
  | a, b =>
    match a.keyNumber?, b.keyNumber? with
    | some m, some n => m.same n
    | _, _ => false

def sameKeys : List Value → List Value → Bool
  | [], [] => true
  | a :: as, b :: bs => sameKey a b && sameKeys as bs
  | _, _ => false

end

/-- Writes an entry: in the place of an equal key, which stays as it was, or at the end. -/
def putEntry (k v : Value) : List (Value × Value) → List (Value × Value)
  | [] => [(k, v)]
  | (k', v') :: es => if sameKey k' k then (k', v) :: es else (k', v') :: putEntry k v es

def get? (name : String) : List (Value × Value) → Option Value
  | [] => none
  | (.text k, v) :: es => if k = name then some v else get? name es
  | _ :: es => get? name es

def decimalKeyFault? : Decimal → Option KeyFault
  | .nan _ true _ => some .signaling
  | _ => none

mutual

/-- What keeps a value from being a key, if anything does. Of several parts of a tuple that do, the
first one counts. -/
def keyFault? : Value → Option KeyFault
  | .list _ => some (.container "list")
  | .map _ => some (.container "dict")
  | .tuple items => keyFaultOfItems? items
  | .decimal d | .scalar (.number (.decimal d)) => decimalKeyFault? d
  | _ => none

/-- What keeps the items of a tuple from being part of a key. -/
def keyFaultOfItems? : List Value → Option KeyFault
  | [] => none
  | v :: vs => (keyFault? v).or (keyFaultOfItems? vs)

end

def putEntry? (k v : Value) (es : List (Value × Value)) :
    Except KeyFault (List (Value × Value)) :=
  match k.keyFault? with
  | some e => .error e
  | none => .ok (putEntry k v es)

end Value

end RequestSql
