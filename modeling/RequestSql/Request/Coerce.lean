import RequestSql.Fields
import RequestSql.Request.Fault
import RequestSql.Value.Display

/-!
# Reading plain parts

Texts, lists of texts and maps with text keys. Bytes that hold a text count as that text, and tuples
count as lists.
-/

namespace RequestSql.Reading

def textOfBytes? (bs : List UInt8) : Option String := String.fromUTF8? ⟨bs.toArray⟩

def text (path : List PathStep) (v : Value) : Reading String :=
  match v with
  | .text s => .ok s
  | .bytes bs => match textOfBytes? bs with
    | some s => .ok s
    | none => fault .notUnicode path v
  | _ => fault .notText path v

def optionalText (path : List PathStep) : Option Value → Reading (Option String)
  | none | some .null => .ok none
  | some v => (text path v).map some

/-- Reads a text that must be there; the record that should hold it is shown otherwise. -/
def requiredText (path : List PathStep) (holder : Value) : Option Value → Reading String
  | none => fault .missing path holder
  | some v => text path v

def items? : Value → Option (List Value)
  | .list vs | .tuple vs => some vs
  | _ => none

def texts (path : List PathStep) (v : Value) : Reading (List String) :=
  match items? v with
  | some vs => each (fun i w => text (path ++ [.index i]) w) 0 vs
  | none => fault .notList path v

/-- The bound of machine-sized integers, of 64 bits. -/
def wordBound : Nat := 0x8000000000000000

def isWord (n : Int) : Bool := -(wordBound : Int) ≤ n && n < wordBound

/-- The step of a path that a key gives: a text or a machine-sized integer is itself, and any other
key is shown. -/
def keyStep (key : Value) : PathStep :=
  let integer (n : Int) : PathStep :=
    if isWord n then .index n else .name (String.ofList key.shown)
  match key with
  | .text s => .name s
  | .int n => integer n
  | .bool b => integer b.toNat
  | _ => .name (String.ofList key.shown)

def entry (path : List PathStep) (e : Value × Value) : Reading (String × Value) :=
  (text (path ++ [keyStep e.1, .name "[key]"]) e.1).map fun key => (key, e.2)

/-- Reads a map with text keys; a missing or null one is empty. -/
def fields (path : List PathStep) : Option Value → Reading (Fields Value)
  | none | some .null => .ok .empty
  | some (.map es) => (each (fun _ e => entry path e) 0 es).map Fields.ofList
  | some v => fault .notMap path v

end RequestSql.Reading
