/-!
# Fields

An insertion-ordered map from names. A name keeps the place where it was first written, and the last
value written under it.
-/

namespace RequestSql

/-- A map from names that remembers the order in which they came. -/
structure Fields (α : Type) where
  entries : List (String × α)
  nodup : (entries.map Prod.fst).Nodup
  deriving DecidableEq

namespace Fields

variable {α β : Type}

/-- Writes an entry in the place of its name, or at the end. -/
def putEntry (name : String) (v : α) : List (String × α) → List (String × α)
  | [] => [(name, v)]
  | e :: es => if e.1 = name then (name, v) :: es else e :: putEntry name v es

theorem keys_putEntry (name : String) (v : α) (es : List (String × α)) :
    (putEntry name v es).map Prod.fst =
      if name ∈ es.map Prod.fst then es.map Prod.fst else es.map Prod.fst ++ [name] := by
  induction es with
  | nil => simp [putEntry]
  | cons e es ih => by_cases h : e.1 = name <;> grind [putEntry]

theorem nodup_putEntry (name : String) (v : α) {es : List (String × α)}
    (h : (es.map Prod.fst).Nodup) : ((putEntry name v es).map Prod.fst).Nodup := by
  rw [keys_putEntry]
  split
  · exact h
  · rename_i hn
    simp only [List.nodup_append, h, List.nodup_cons, List.not_mem_nil, not_false_eq_true,
      List.nodup_nil, and_self, List.mem_singleton, true_and]
    rintro a ha _ rfl rfl
    exact hn ha

def empty : Fields α := ⟨[], List.nodup_nil⟩

def insert (fs : Fields α) (name : String) (v : α) : Fields α :=
  ⟨putEntry name v fs.entries, nodup_putEntry name v fs.nodup⟩

/-- Writes further entries in their order. -/
def append (fs : Fields α) (es : List (String × α)) : Fields α :=
  es.foldl (fun acc e => acc.insert e.1 e.2) fs

def ofList (es : List (String × α)) : Fields α := empty.append es

/-- The fields of the first, overwritten and then extended by those of the second. -/
def merge (a b : Fields α) : Fields α := a.append b.entries

def get? (fs : Fields α) (name : String) : Option α := fs.entries.lookup name

def erase (fs : Fields α) (name : String) : Fields α where
  entries := fs.entries.filter fun e => e.1 ≠ name
  nodup := (fs.nodup).sublist ((List.filter_sublist).map _)

def keys (fs : Fields α) : List String := fs.entries.map Prod.fst

def values (fs : Fields α) : List α := fs.entries.map Prod.snd

def map (f : α → β) (fs : Fields α) : Fields β where
  entries := fs.entries.map fun e => (e.1, f e.2)
  nodup := by simpa [Function.comp_def] using fs.nodup

def isEmpty (fs : Fields α) : Bool := fs.entries.isEmpty

def size (fs : Fields α) : Nat := fs.entries.length

@[ext] theorem ext {a b : Fields α} (h : a.entries = b.entries) : a = b := by
  cases a; cases b; simpa using h

@[simp] theorem entries_empty : (empty : Fields α).entries = [] := rfl

@[simp] theorem entries_map (f : α → β) (fs : Fields α) :
    (fs.map f).entries = fs.entries.map fun e => (e.1, f e.2) := rfl

@[simp] theorem keys_map (f : α → β) (fs : Fields α) : (fs.map f).keys = fs.keys := by
  simp [keys, Function.comp_def]

@[simp] theorem isEmpty_map (f : α → β) (fs : Fields α) : (fs.map f).isEmpty = fs.isEmpty := by
  simp [isEmpty]

end Fields

end RequestSql
