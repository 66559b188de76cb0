import RequestSql.Proofs.Fields
import RequestSql.Proofs.Value.Json
import RequestSql.Request.Read

/-!
# The form of a request

What a request holds that was read from a map, field by field, and what its table and its fields
are where the map is one of JSON.
-/

namespace RequestSql

namespace Reading

variable {α : Type} {path : List PathStep}

/-- The text under a field of JSON; nothing where the field is missing or null. -/
theorem optionalText_json {o : Option Value} {t : Option String} (ho : ∀ v, o = some v → v.IsJson)
    (h : optionalText path o = .ok t) : (o = some .null ∨ o = none) ∧ t = none ∨
      ∃ s, o = some (.text s) ∧ t = some s := by
  cases o with
  | none => exact .inl ⟨.inr rfl, (Reading.ok.inj h).symm⟩
  | some v =>
    cases ho v rfl with
    | null => exact .inl ⟨.inl rfl, (Reading.ok.inj h).symm⟩
    | text s => exact .inr ⟨s, rfl, (Reading.ok.inj h).symm⟩
    | bool | int | float | list | record => cases h

theorem each_entry (entries : List (String × Value)) (i : Nat) :
    each (fun _ e => entry path e) i (entries.map fun e => (Value.text e.1, e.2)) =
      .ok entries := by
  induction entries generalizing i with
  | nil => rfl
  | cons e es ih =>
    rw [List.map_cons, each, ih]
    rfl

theorem fields_record (path : List PathStep) {entries : List (String × Value)}
    (h : (entries.map Prod.fst).Nodup) :
    ∃ fs, fields path (some (.record entries)) = .ok fs ∧ fs.entries = entries := by
  refine ⟨.ofList entries, ?_, Fields.entries_ofList h⟩
  rw [Value.record, fields, each_entry]
  rfl

/-- The fields under a field of JSON; none where the field is missing or null. -/
theorem fields_json {o : Option Value} {fs : Fields Value} (ho : ∀ v, o = some v → v.IsJson)
    (h : fields path o = .ok fs) : (o = some .null ∨ o = none) ∧ fs = .empty ∨
      o = some (.record fs.entries) := by
  cases o with
  | none => exact .inl ⟨.inr rfl, (Reading.ok.inj h).symm⟩
  | some v =>
    cases ho v rfl with
    | null => exact .inl ⟨.inl rfl, (Reading.ok.inj h).symm⟩
    | record hkeys hentries =>
      obtain ⟨fs', hread, he⟩ := fields_record path hkeys
      obtain rfl : fs' = fs := Reading.ok.inj (hread.symm.trans h)
      rw [he]
      exact .inr rfl
    | bool | int | float | text | list => cases h

end Reading

namespace Request

/-- The request holds what the fields of the map were read as. -/
structure IsReadFrom (q : Request) (v : Value) : Prop where
  method : Reading.optionalText [.name "method"] (v.field "method") = .ok q.method
  table : Reading.optionalText [.name "table"] (v.field "table") = .ok q.table
  params : Reading.fields [.name "params"] (v.field "params") = .ok q.params
  query : Reading.fields [.name "query"] (v.field "query") = .ok q.query
  body : Reading.fields [.name "body"] (v.field "body") = .ok q.body
  select : readSelect [.name "select"] (v.field "select") = .ok q.select
  orderBy : ∃ path, readOrderBy path ((v.field "orderBy").or (v.field "order_by")) = .ok q.orderBy
  softDelete : q.softDelete =
    readSoftDelete ((v.field "softDelete").or (v.field "soft_delete"))

theorem either_snd (first second : String) (es : List (Value × Value)) :
    (either first second es).2 = (Value.get? first es).or (Value.get? second es) := by
  unfold either
  cases Value.get? first es with
  | none => rfl
  | some v => rfl

/-- A request that was read was read from a map, every field from the field of its name. -/
theorem isReadFrom_of_read {v : Value} {q : Request} (h : read v = .ok q) : q.IsReadFrom v := by
  cases v with
  | map es =>
    obtain ⟨f₁, keys, h, -, h₁⟩ := Reading.ap_eq_ok_iff.mp h
    obtain ⟨f₂, soft, h, hsoft, h₂⟩ := Reading.ap_eq_ok_iff.mp h
    obtain ⟨f₃, order, h, horder, h₃⟩ := Reading.ap_eq_ok_iff.mp h
    obtain ⟨f₄, columns, h, hcolumns, h₄⟩ := Reading.ap_eq_ok_iff.mp h
    obtain ⟨f₅, joins, h, -, h₅⟩ := Reading.ap_eq_ok_iff.mp h
    obtain ⟨f₆, body, h, hbody, h₆⟩ := Reading.ap_eq_ok_iff.mp h
    obtain ⟨f₇, query, h, hquery, h₇⟩ := Reading.ap_eq_ok_iff.mp h
    obtain ⟨f₈, params, h, hparams, h₈⟩ := Reading.ap_eq_ok_iff.mp h
    obtain ⟨f₉, table, h, htable, h₉⟩ := Reading.ap_eq_ok_iff.mp h
    obtain ⟨f, method, h, hmethod, h⟩ := Reading.ap_eq_ok_iff.mp h
    obtain rfl := Reading.ok.inj ‹Reading.ok mk = .ok f›
    obtain rfl := Reading.ok.inj hsoft
    subst h h₉ h₈ h₇ h₆ h₅ h₄ h₃ h₂ h₁
    rw [either_snd] at horder
    exact ⟨hmethod, htable, hparams, hquery, hbody, hcolumns, ⟨_, horder⟩, by rw [either_snd]; rfl⟩
  | _ => cases h

variable {q : Request} {v : Value}

theorem isEmpty_fields {path : List PathStep} {name : String} {fs : Fields Value} (hv : v.IsJson)
    (h : Reading.fields path (v.field name) = .ok fs) : fs.isEmpty = !v.hasFields name := by
  rcases Reading.fields_json (fun w hw => Value.isJson_field hv hw) h with ⟨hnone, rfl⟩ | hsome
  · rcases hnone with hnone | hnone
    · rw [Value.hasFields, hnone]
      rfl
    · rw [Value.hasFields, hnone]
      rfl
  · rw [Value.hasFields, hsome, Fields.isEmpty]
    cases fs.entries with
    | nil => rfl
    | cons e es => rfl

theorem get?_fields {path : List PathStep} {name key : String} {fs : Fields Value} (hv : v.IsJson)
    (h : Reading.fields path (v.field name) = .ok fs) :
    fs.get? key = (v.field name).bind (Value.field key) := by
  rcases Reading.fields_json (fun w hw => Value.isJson_field hv hw) h with ⟨hnone, rfl⟩ | hsome
  · rcases hnone with hnone | hnone
    · rw [hnone]
      rfl
    · rw [hnone]
      rfl
  · rw [hsome, Option.bind_some, Value.field_record]
    rfl

/-- The text under a field, where it is one and not empty. -/
def textField (name : String) (v : Value) : Option String :=
  match v.field name with
  | some (.text s) => nonempty (some s)
  | _ => none

theorem nonempty_optionalText {path : List PathStep} {name : String} {t : Option String}
    (hv : v.IsJson) (h : Reading.optionalText path (v.field name) = .ok t) :
    nonempty t = textField name v := by
  rcases Reading.optionalText_json (fun w hw => Value.isJson_field hv hw) h with
    ⟨hnone, rfl⟩ | ⟨s, hs, rfl⟩
  · rcases hnone with hnone | hnone
    · rw [textField, hnone]
      rfl
    · rw [textField, hnone]
      rfl
  · rw [textField, hs]

theorem nonempty_of_ne {s : String} (h : s ≠ "") : nonempty (some s) = some s := by
  unfold nonempty
  split
  · cases ‹some s = none›
  · exact absurd (Option.some.inj ‹some s = some ""›) h
  · exact ‹some s = some _›.symm

theorem nonempty_ne {o : Option String} {s : String} (h : nonempty o = some s) : s ≠ "" := by
  unfold nonempty at h
  split at h
  · cases h
  · cases h
  · rename_i t ht
    obtain rfl := Option.some.inj h
    exact ht

def pathTable (v : Value) : Option Value := (v.field "params").bind (Value.field "table")

/-- The table is named by the field of that name or by a path parameter that counts as true. -/
def namesTable (v : Value) : Bool :=
  (textField "table" v).isSome || (pathTable v).any Value.isTruthy

theorem resolvedTable_json (hv : v.IsJson) (hq : q.IsReadFrom v) :
    if namesTable v then ∃ table, q.resolvedTable = some table ∧ table ≠ ""
    else q.resolvedTable = none := by
  have htable := nonempty_optionalText hv hq.table
  have hpath : q.params.get? "table" = pathTable v := get?_fields hv hq.params
  rw [resolvedTable, htable, hpath, namesTable]
  cases ht : textField "table" v with
  | some table =>
    rw [← htable] at ht
    exact ⟨table, rfl, nonempty_ne ht⟩
  | none =>
    cases hp : pathTable v with
    | none => rfl
    | some w =>
      cases hw : w.isTruthy with
      | false => simp [hw]
      | true =>
        simp only [Option.isSome_none, Option.any_some, hw, Bool.false_or, if_true]
        exact ⟨w.display, rfl, Value.display_ne_empty hw⟩

end Request

end RequestSql
