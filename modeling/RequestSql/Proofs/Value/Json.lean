import RequestSql.Proofs.Text.Word
import RequestSql.Value.Display
import RequestSql.Value.Key

/-!
# Values of JSON

The values of JSON, with integers of any length, and their fields. Whatever counts as true has a
display that is not empty, be it of JSON or not.
-/

namespace RequestSql.Value

/-- A map with text keys. -/
def record (entries : List (String × Value)) : Value := .map (entries.map fun e => (.text e.1, e.2))

/-- A value of JSON. -/
inductive IsJson : Value → Prop where
  | null : IsJson .null
  | bool (b : Bool) : IsJson (.bool b)
  | int (n : Int) : IsJson (.int n)
  | float (x : Double) : IsJson (.float x)
  | text (s : String) : IsJson (.text s)
  | list {items : List Value} (h : ∀ v ∈ items, IsJson v) : IsJson (.list items)
  | record {entries : List (String × Value)} (hkeys : (entries.map Prod.fst).Nodup)
      (h : ∀ e ∈ entries, IsJson e.2) : IsJson (record entries)

/-- The value under a name, if there is a map. -/
def field (name : String) : Value → Option Value
  | .map es => get? name es
  | _ => none

/-- What stands in the map under a name; nothing if there is no map. -/
def valuesUnder (name : String) (v : Value) : List Value :=
  match v.field name with
  | some (.map es) => es.map Prod.snd
  | _ => []

/-- A map with entries stands under a name. -/
def hasFields (name : String) (v : Value) : Bool :=
  match v.field name with
  | some (.map es) => !es.isEmpty
  | _ => false

theorem field_record (name : String) (entries : List (String × Value)) :
    (record entries).field name = entries.lookup name := by
  change get? name (entries.map fun e => (.text e.1, e.2)) = _
  induction entries with
  | nil => rfl
  | cons e es ih =>
    rw [List.map_cons, get?, List.lookup_cons, ih]
    by_cases h : e.1 = name
    · simp [h]
    · have hne : (name == e.1) = false := beq_eq_false_iff_ne.mpr (Ne.symm h)
      rw [if_neg h, hne]

theorem isJson_field {v w : Value} {name : String} (hv : v.IsJson) (h : v.field name = some w) :
    w.IsJson := by
  cases hv with
  | record hkeys hentries =>
    rename_i entries
    rw [field_record] at h
    obtain ⟨before, after, he, -⟩ := List.lookup_eq_some_iff.mp h
    exact hentries (name, w) (by simp [he])
  | null | bool | int | float | text | list => cases h

theorem anyLongInteger_eq_false_iff {vs : List Value} :
    anyLongInteger vs = false ↔ ∀ v ∈ vs, v.hasLongInteger = false := by
  induction vs with
  | nil => exact iff_of_true rfl nofun
  | cons v vs ih => rw [anyLongInteger, Bool.or_eq_false_iff, ih, List.forall_mem_cons]

theorem anyLongEntry_eq_false_iff {es : List (Value × Value)} :
    anyLongEntry es = false ↔
      ∀ e ∈ es, e.1.hasLongInteger = false ∧ e.2.hasLongInteger = false := by
  induction es with
  | nil => exact iff_of_true rfl nofun
  | cons e es ih =>
    rw [anyLongEntry, Bool.or_eq_false_iff, Bool.or_eq_false_iff, ih, List.forall_mem_cons]

theorem display_ne_empty {v : Value} (h : v.isTruthy = true) : v.display ≠ "" := by
  intro hempty
  have hlist := congrArg String.toList hempty
  cases v with
  | null => cases h
  | bool b =>
    cases b with
    | false => cases h
    | true => exact absurd hempty (by decide)
  | int n =>
    rw [display, String.toList_ofList] at hlist
    · exact (Decimal.isWord_signedDigits n).ne_nil hlist
    · nofun
    · nofun
  | float x =>
    rw [display, String.toList_ofList] at hlist
    · exact x.isWord_chars.ne_nil hlist
    · nofun
    · nofun
  | decimal d =>
    rw [display, Decimal.text, String.toList_ofList] at hlist
    exact d.isWord_chars.ne_nil hlist
  | bytes bs => simp [display, shown, Text.quotedBytes] at hlist
  | text s => exact absurd hempty (by simpa [isTruthy, display] using h)
  | list items =>
    cases items with
    | nil => cases h
    | cons w ws => simp [display, shown] at hlist
  | tuple items =>
    match items with
    | [] => cases h
    | [w] => simp [display, shown] at hlist
    | w :: u :: ws => simp [display, shown] at hlist
  | map entries =>
    cases entries with
    | nil => cases h
    | cons e es => simp [display, shown] at hlist
  | scalar s =>
    have hshown : s.shown ≠ [] := by
      cases s with
      | null => decide
      | bool | number | text =>
        exact List.append_ne_nil_of_right_ne_nil _ (List.cons_ne_nil _ _)
    rw [display, String.toList_ofList, shown] at hlist
    · exact hshown hlist
    · nofun
    · nofun

end RequestSql.Value
