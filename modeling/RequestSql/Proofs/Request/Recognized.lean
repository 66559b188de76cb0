import RequestSql.Proofs.Request.Grammar
import RequestSql.Proofs.Statement.Dependence

/-!
# The fields that decide

A request is read from the values of nine fields, two of which go by either of two names. Whether it
is read, and as what, is a function of these values: neither the order of the keys nor any other
field has a part in it. Only the keys themselves are kept, as they were written, and they come back
in the trace of the statement.
-/

namespace RequestSql

namespace Reading

variable {α β : Type} {r : Reading α} {a : α}

/-- What is read, without the faults. -/
def value? : Reading α → Option α
  | .ok a => some a
  | .faulty _ => none

theorem value?_ok (a : α) : (Reading.ok a).value? = some a := rfl

theorem value?_eq_some_iff : r.value? = some a ↔ r = .ok a := by
  cases r with
  | ok b => exact ⟨fun h => congrArg Reading.ok (Option.some.inj h), fun h => congrArg value? h⟩
  | faulty es => exact iff_of_false nofun nofun

theorem value?_eq_none_iff : r.value? = none ↔ ∃ faults, r = .faulty faults := by
  cases r with
  | ok b => exact iff_of_false nofun nofun
  | faulty es => exact iff_of_true rfl ⟨es, rfl⟩

theorem value?_map (f : α → β) (r : Reading α) : (r.map f).value? = r.value?.map f := by
  cases r <;> rfl

theorem value?_ap (f : Reading (α → β)) (r : Reading α) :
    (f.ap r).value? = f.value?.bind fun g => r.value?.map g := by
  cases f <;> cases r <;> rfl

theorem value?_firstOf_cons (r : Reading α) (rs : List (Reading α)) :
    (firstOf (r :: rs)).value? = r.value?.or (firstOf rs).value? := by
  cases r with
  | ok a => rfl
  | faulty es =>
    rw [firstOf]
    cases firstOf rs <;> rfl

theorem value?_each_congr {read read' : Nat → α → Reading β}
    (h : ∀ i a, (read i a).value? = (read' i a).value?) (i : Nat) (as : List α) :
    (each read i as).value? = (each read' i as).value? := by
  induction as generalizing i with
  | nil => rfl
  | cons a as ih => rw [each, each, value?_ap, value?_ap, value?_ap, value?_ap, h, ih]

/-! A path tells where a fault is and has no part in what is read. -/

variable (path path' : List PathStep)

theorem value?_text (v : Value) : (text path v).value? = (text path' v).value? := by
  unfold text
  split
  · rfl
  · split <;> rfl
  · rfl

theorem value?_optionalText (o : Option Value) :
    (optionalText path o).value? = (optionalText path' o).value? := by
  unfold optionalText
  split
  · rfl
  · rfl
  · rw [value?_map, value?_map, value?_text path path']

theorem value?_texts (v : Value) : (texts path v).value? = (texts path' v).value? := by
  unfold texts
  split
  · exact value?_each_congr (fun _ w => value?_text _ _ w) 0 _
  · rfl

end Reading

namespace Request

theorem value?_readOrderColumn (path path' : List PathStep) (v : Value) :
    (readOrderColumn path v).value? = (readOrderColumn path' v).value? := by
  unfold readOrderColumn
  split
  · have hfield (name : String) (o : Option Value) :=
      Reading.value?_optionalText (path ++ [.name name]) (path' ++ [.name name]) o
    rw [Reading.value?_ap, Reading.value?_ap, Reading.value?_ap, Reading.value?_ap, hfield, hfield]
  · rfl

theorem value?_readOrderBy (path path' : List PathStep) (o : Option Value) :
    (readOrderBy path o).value? = (readOrderBy path' o).value? := by
  unfold readOrderBy
  split
  · rfl
  · rfl
  · rfl
  · rfl
  · simp only [Reading.value?_map, Reading.value?_firstOf_cons,
      Reading.value?_text _ (path' ++ [.name "str"]),
      Reading.value?_texts _ (path' ++ [.name "list[str]"]),
      value?_readOrderColumn _ (path' ++ [.name "OrderByInput"])]

end Request

/-- The field that says how to delete: the second name counts only where the first one is missing.
-/
def Value.softField (v : Value) : Option Value := (v.field "softDelete").or (v.field "soft_delete")

/-- The values of the fields that a request is read from. -/
structure Recognized where
  method : Option Value
  table : Option Value
  params : Option Value
  query : Option Value
  body : Option Value
  joins : Option Value
  select : Option Value
  order : Option Value
  soft : Option Value

def Value.recognized (v : Value) : Recognized where
  method := v.field "method"
  table := v.field "table"
  params := v.field "params"
  query := v.field "query"
  body := v.field "body"
  joins := v.field "joins"
  select := v.field "select"
  order := v.orderField
  soft := v.softField

/-- The request that the fields give under a list of keys, if they give one. -/
def Recognized.request? (f : Recognized) (keys : List String) : Option Request := do
  let method ← (Reading.optionalText [.name "method"] f.method).value?
  let table ← (Reading.optionalText [.name "table"] f.table).value?
  let params ← (Reading.fields [.name "params"] f.params).value?
  let query ← (Reading.fields [.name "query"] f.query).value?
  let body ← (Reading.fields [.name "body"] f.body).value?
  let joins ← (Request.readJoins [.name "joins"] f.joins).value?
  let select ← (Request.readSelect [.name "select"] f.select).value?
  let orderBy ← (Request.readOrderBy [.name "orderBy"] f.order).value?
  return ⟨method, table, params, query, body, joins, select, orderBy,
    Request.readSoftDelete f.soft, keys⟩

namespace Request

theorem readKeys_texts (es : List (String × Value)) :
    readKeys (es.map fun e => (.text e.1, e.2)) = .ok (es.map Prod.fst) := by
  unfold readKeys
  -- the position of an entry has no part in its key
  generalize 0 = i
  induction es generalizing i with
  | nil => rfl
  | cons e es ih =>
    rw [List.map_cons, Reading.each, ih]
    rfl

/-- What is read of a map depends on the recognized fields and the keys alone. -/
theorem value?_read (es : List (String × Value)) :
    (read (.record es)).value? = (Value.record es).recognized.request? (es.map Prod.fst) := by
  unfold read Value.record
  simp only [either_snd, readKeys_texts, Reading.value?_ap, Reading.value?_ok]
  rw [value?_readOrderBy _ [.name "orderBy"]]
  unfold Recognized.request? Value.recognized Value.orderField Value.softField Value.field
  simp only [Option.bind_eq_bind, Option.pure_def, Option.map_eq_bind, Option.bind_assoc,
    Option.bind_some, Function.comp_def]

theorem request?_keys (f : Recognized) (keys keys' : List String) :
    f.request? keys' = (f.request? keys).map fun q => { q with keys := keys' } := by
  unfold Recognized.request?
  simp only [Option.bind_eq_bind, Option.pure_def, Option.map_bind, Function.comp_def,
    Option.map_some]

/-- Whatever stands where it says how to delete, the request is read, and nothing else changes. -/
theorem request?_soft (f : Recognized) (soft : Option Value) (keys : List String) :
    { f with soft }.request? keys =
      (f.request? keys).map fun q => { q with softDelete := readSoftDelete soft } := by
  unfold Recognized.request?
  simp only [Option.bind_eq_bind, Option.pure_def, Option.map_bind, Function.comp_def,
    Option.map_some]

variable {es fs : List (String × Value)} {q : Request}

/-- Maps with the same recognized fields are read alike, each with its own keys. -/
theorem value?_read_of_recognized
    (h : (Value.record es).recognized = (Value.record fs).recognized) :
    (read (.record fs)).value? =
      (read (.record es)).value?.map fun q => { q with keys := fs.map Prod.fst } := by
  rw [value?_read, value?_read, ← h, request?_keys]

theorem keys_of_read (h : read (.record es) = .ok q) : q.keys = es.map Prod.fst := by
  have hvalue := (value?_read es).symm.trans (congrArg Reading.value? h)
  rw [request?_keys _ []] at hvalue
  obtain ⟨q', -, rfl⟩ := Option.map_eq_some_iff.mp hvalue
  rfl

end Request

/-- Two statements that tell of their own keys, and are the same otherwise. -/
structure Statement.SameButKeys (keys keys' : List String) (s t : Statement) : Prop where
  left : s.trace.inputKeys = keys
  right : t.trace.inputKeys = keys'
  same : t = s.withKeys keys'

theorem Statement.inputKeys_of_compile {d : Dialect} {r : Descriptor} {s : Statement}
    (h : compile d r = .ok s) : s.trace.inputKeys = r.inputKeys := by
  have hsame : compile d { r with inputKeys := r.inputKeys } = .ok s := h
  rw [compile_withKeys, h] at hsame
  exact (congrArg (·.trace.inputKeys) (Except.ok.inj hsame)).symm

theorem Statement.agree_of_keys (d : Dialect) (r : Descriptor) (keys : List String) :
    Agree (SameButKeys r.inputKeys keys) (compile d r) (compile d { r with inputKeys := keys }) := by
  rw [compile_withKeys d r keys]
  cases h : compile d r with
  | error e => exact .failed e
  | ok s => exact .compiled ⟨inputKeys_of_compile h, rfl, rfl⟩

end RequestSql
