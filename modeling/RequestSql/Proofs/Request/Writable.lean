import RequestSql.Proofs.Request.Fault
import RequestSql.Proofs.Request.Form

/-!
# Requests that can be written out

To normalize a request is to write out its lists and maps, and perhaps a path parameter that names
the table. An integer with too many digits in one of these cannot be written out, and then a request
is read but not normalized. Elsewhere integers may have any number of digits.
-/

namespace RequestSql

namespace Value

variable {v w : Value}

theorem hasLongInteger_of_field {name : String} (hv : v.hasLongInteger = false)
    (h : v.field name = some w) : w.hasLongInteger = false := by
  cases v with
  | map es => exact (anyLongEntry_eq_false_iff.mp hv _ (mem_of_get? h)).2
  | _ => cases h

theorem hasLongInteger_of_mem_valuesUnder {name : String} (hv : v.hasLongInteger = false)
    (h : w ∈ v.valuesUnder name) : w.hasLongInteger = false := by
  unfold valuesUnder at h
  split at h
  · rename_i es hes
    obtain ⟨e, he, rfl⟩ := List.mem_map.mp h
    exact (anyLongEntry_eq_false_iff.mp (hasLongInteger_of_field hv hes) e he).2
  · cases h

theorem isFileable_iff :
    v.isFileable = true ↔ (v.isCompound = true → v.hasLongInteger = false) := by
  unfold isFileable
  cases v.isCompound <;> cases v.hasLongInteger <;> simp

/-- What must be written out to normalize a request can be: a path parameter that names the table,
and lists and maps among the parameters and fields. -/
structure IsWritable (v : Value) : Prop where
  table : Request.textField "table" v = none →
    ∀ w, Request.pathTable v = some w → w.isTruthy = true → w.hasLongInteger = false
  compound : ∀ name ∈ ["params", "query", "body"], ∀ w ∈ v.valuesUnder name,
    w.isCompound = true → w.hasLongInteger = false

/-- Where no integer is too long, everything can be written out. -/
theorem isWritable_of_short (h : v.hasLongInteger = false) : v.IsWritable where
  table _ w hw _ := by
    obtain ⟨u, hu, hw⟩ := Option.bind_eq_some_iff.mp hw
    exact hasLongInteger_of_field (hasLongInteger_of_field h hu) hw
  compound _ _ _ hw _ := hasLongInteger_of_mem_valuesUnder h hw

end Value

namespace Request

variable {v : Value} {q : Request}

theorem hasWritableTable_iff : q.hasWritableTable = true ↔ (nonempty q.table = none →
    ∀ w, q.params.get? "table" = some w → w.isTruthy = true → w.hasLongInteger = false) := by
  unfold hasWritableTable
  cases nonempty q.table with
  | some table => simp
  | none =>
    cases q.params.get? "table" with
    | none => simp
    | some w => cases h : w.isTruthy <;> simp [h]

theorem isWritable_iff_forall : q.isWritable = true ↔ q.hasWritableTable = true ∧
    (∀ w ∈ q.params.values, w.isFileable = true) ∧ (∀ w ∈ q.query.values, w.isFileable = true) ∧
      ∀ w ∈ q.body.values, w.isFileable = true := by
  simp only [isWritable, List.all_cons, List.all_nil, Bool.and_true, Bool.and_eq_true,
    List.all_eq_true]

theorem values_fields {path : List PathStep} {name : String} {fs : Fields Value} (hv : v.IsJson)
    (h : Reading.fields path (v.field name) = .ok fs) : fs.values = v.valuesUnder name := by
  rcases Reading.fields_json (fun w hw => Value.isJson_field hv hw) h with ⟨hnone, rfl⟩ | hsome
  · rcases hnone with hnone | hnone
    · rw [Value.valuesUnder, hnone]
      rfl
    · rw [Value.valuesUnder, hnone]
      rfl
  · have hvalues : v.valuesUnder name =
        (fs.entries.map fun e => (Value.text e.1, e.2)).map Prod.snd := by
      rw [Value.valuesUnder, hsome]
      rfl
    rw [hvalues, List.map_map]
    rfl

/-- Whether a request can be written out is told by the fields of the value that it was read from.
-/
theorem isWritable_iff (hv : v.IsJson) (hq : q.IsReadFrom v) :
    q.isWritable = true ↔ v.IsWritable := by
  have htable : nonempty q.table = textField "table" v := nonempty_optionalText hv hq.table
  have hpath : q.params.get? "table" = pathTable v := get?_fields hv hq.params
  rw [isWritable_iff_forall, hasWritableTable_iff, htable, hpath]
  simp only [values_fields hv hq.params, values_fields hv hq.query, values_fields hv hq.body,
    Value.isFileable_iff]
  constructor
  · rintro ⟨ht, hparams, hquery, hbody⟩
    exact ⟨ht, List.forall_mem_cons.mpr ⟨hparams, List.forall_mem_cons.mpr ⟨hquery,
      List.forall_mem_singleton.mpr hbody⟩⟩⟩
  · rintro ⟨ht, hcompound⟩
    exact ⟨ht, hcompound "params" (by simp), hcompound "query" (by simp),
      hcompound "body" (by simp)⟩

end Request

namespace Descriptor

variable {v : Value} {q : Request} {r : Descriptor}

theorem read_of_faulty {faults : List Fault} (h : Request.read v = .faulty faults) :
    Descriptor.read v = .faulty faults := by
  rw [Descriptor.read, h]

theorem read_of_writable (h : Request.read v = .ok q) (hq : q.isWritable = true) :
    Descriptor.read v = .ok (.ofRequest q) := by
  simp only [Descriptor.read, h, hq, if_true]

theorem read_of_not_writable (h : Request.read v = .ok q) (hq : q.isWritable = false) :
    Descriptor.read v = .fault .longInteger [] v := by
  simp only [Descriptor.read, h, hq, Bool.false_eq_true, if_false]

/-- A descriptor that was read is that of a request that was read and can be written out. -/
theorem read_eq_ok (h : Descriptor.read v = .ok r) :
    ∃ q, Request.read v = .ok q ∧ q.isWritable = true ∧ ofRequest q = r := by
  unfold Descriptor.read at h
  split at h
  · cases h
  · rename_i q hq
    split at h
    · exact ⟨q, hq, ‹_›, Reading.ok.inj h⟩
    · cases h

/-- Of a value of JSON without long integers, every request that is read is normalized. -/
theorem read_of_short (hv : v.IsJson) (hshort : v.hasLongInteger = false)
    (h : Request.read v = .ok q) : Descriptor.read v = .ok (.ofRequest q) := by
  refine read_of_writable h ?_
  exact (Request.isWritable_iff hv (Request.isReadFrom_of_read h)).mpr
    (Value.isWritable_of_short hshort)

end Descriptor

end RequestSql
