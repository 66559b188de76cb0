import RequestSql.Dialect.Basic
import RequestSql.Fields
import RequestSql.Value.Display
import RequestSql.Value.Key

/-!
# The registry of dialects

Dialects are found by name. The registry keeps them in the order in which their names were first
registered, and the last dialect of each name. What is told of it is told in the order of names.
-/

namespace RequestSql

/-- Dialects by their names, in the order of registration. -/
structure Registry where
  byName : Fields Dialect
  named : ∀ e ∈ byName.entries, e.2.name = e.1

namespace Registry

/-- Why a name finds no dialect. -/
inductive LookupError where
  /-- No dialect of that name; the registered names are given. -/
  | unsupported (name : Value) (available : List String)
  /-- The value cannot name anything. -/
  | noKey (fault : KeyFault)

theorem named_putEntry {d : Dialect} {es : List (String × Dialect)}
    (h : ∀ e ∈ es, e.2.name = e.1) : ∀ e ∈ Fields.putEntry d.name d es, e.2.name = e.1 := by
  induction es with
  | nil => simp [Fields.putEntry]
  | cons e es ih =>
    rw [List.forall_mem_cons] at h
    unfold Fields.putEntry
    split
    · exact List.forall_mem_cons.mpr ⟨rfl, h.2⟩
    · exact List.forall_mem_cons.mpr ⟨h.1, ih h.2⟩

/-- Puts a dialect in the place of its name, or at the end. -/
def register (r : Registry) (d : Dialect) : Registry where
  byName := r.byName.insert d.name d
  named := named_putEntry r.named

/-- The dialects known from the start. -/
def builtin : Registry where
  byName := .ofList [("mysql", .mysql), ("postgres", .postgres), ("sqlite", .sqlite)]
  named := by decide

/-- The dialects in the order of registration. -/
def dialects (r : Registry) : List Dialect := r.byName.values

@[simp] theorem dialects_builtin : builtin.dialects = [.mysql, .postgres, .sqlite] := rfl

/-- The registered names in their own order. -/
def available (r : Registry) : List String := r.byName.keys.mergeSort

def get? (r : Registry) (name : String) : Option Dialect := r.byName.get? name

def find (r : Registry) (name : Value) : Except LookupError Dialect :=
  match name.keyFault? with
  | some fault => .error (.noKey fault)
  | none =>
    match name with
    | .text s => match r.get? s with
      | some d => .ok d
      | none => .error (.unsupported name r.available)
    | _ => .error (.unsupported name r.available)

def LookupError.message : LookupError → String
  | .unsupported name available =>
    "Unsupported dialect '" ++ name.display ++ "'. Available: " ++ ", ".intercalate available
  | .noKey fault => fault.message

def unsupportedCode : String := "UNSUPPORTED_DIALECT"

end Registry

end RequestSql
