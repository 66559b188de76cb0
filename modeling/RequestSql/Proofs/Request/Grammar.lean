import RequestSql.Proofs.Decimal.Digits
import RequestSql.Proofs.Request.Writable

/-!
# The grammar of requests

Which values of JSON are requests, by their form alone: one predicate for each form, built from the
fields of the value and not from the readings. Every reading succeeds exactly on its form. What the
columns and the ordering become is told by the field that they stand under. The form is not all that
counts: a request is refused all the same if it cannot be written out.
-/

namespace RequestSql

namespace Value

/-- Nothing, null or a value of the form. -/
inductive IsOptional (form : Value → Prop) : Option Value → Prop
  | missing : IsOptional form none
  | null : IsOptional form (some .null)
  | given {v : Value} (h : form v) : IsOptional form (some v)

inductive IsText : Value → Prop
  | text (s : String) : IsText (.text s)

inductive IsMap : Value → Prop
  | map (entries : List (Value × Value)) : IsMap (.map entries)

inductive IsListOf (form : Value → Prop) : Value → Prop
  | list {items : List Value} (h : ∀ v ∈ items, form v) : IsListOf form (.list items)

/-- Null, false, a zero, or something empty. -/
inductive IsFalsy : Value → Prop
  | null : IsFalsy .null
  | false : IsFalsy (.bool false)
  | int : IsFalsy (.int 0)
  | float {x : Double} (h : x.isZero = true) : IsFalsy (.float x)
  | text : IsFalsy (.text "")
  | list : IsFalsy (.list [])
  | map : IsFalsy (.map [])

structure IsJoin (v : Value) : Prop where
  isMap : v.IsMap
  kind : IsOptional IsText (v.field "type")
  table : ∃ s, v.field "table" = some (.text s)
  asName : IsOptional IsText (v.field "alias")
  condition : ∃ s, v.field "on" = some (.text s)

structure IsOrderColumn (v : Value) : Prop where
  isMap : v.IsMap
  column : IsOptional IsText (v.field "column")
  direction : IsOptional IsText (v.field "direction")

inductive IsOrder : Value → Prop
  | text {v : Value} (h : v.IsText) : IsOrder v
  | list {v : Value} (h : v.IsListOf IsText) : IsOrder v
  | column {v : Value} (h : v.IsOrderColumn) : IsOrder v

inductive IsSelect : Option Value → Prop
  | missing : IsSelect none
  | falsy {v : Value} (h : v.IsFalsy) : IsSelect (some v)
  | columns {v : Value} (h : v.IsListOf IsText) : IsSelect (some v)

/-- The field of the ordering: the second name counts only where the first one is missing. -/
def orderField (v : Value) : Option Value := (v.field "orderBy").or (v.field "order_by")

/-- A request. It may have any other fields, and anything may stand where it says how to delete. -/
structure IsRequest (v : Value) : Prop where
  isMap : v.IsMap
  method : IsOptional IsText (v.field "method")
  table : IsOptional IsText (v.field "table")
  params : IsOptional IsMap (v.field "params")
  query : IsOptional IsMap (v.field "query")
  body : IsOptional IsMap (v.field "body")
  joins : IsOptional (IsListOf IsJoin) (v.field "joins")
  select : IsSelect (v.field "select")
  orderBy : IsOptional IsOrder v.orderField

theorem isOptional_some {form : Value → Prop} {v : Value} (h : v ≠ .null) :
    IsOptional form (some v) ↔ form v := by
  refine ⟨fun hform => ?_, .given⟩
  cases hform with
  | null => exact absurd rfl h
  | given hform => exact hform

theorem isListOf_list {form : Value → Prop} {items : List Value} :
    (Value.list items).IsListOf form ↔ ∀ v ∈ items, form v :=
  ⟨fun ⟨h⟩ => h, .list⟩

theorem isTruthy_eq_false_iff {v : Value} (hv : v.IsJson) : v.isTruthy = false ↔ v.IsFalsy := by
  constructor
  · intro h
    cases hv with
    | null => exact .null
    | bool b =>
      obtain rfl : b = false := h
      exact .false
    | int n =>
      obtain rfl : n = 0 := by simpa [isTruthy] using h
      exact .int
    | float x => exact .float (by simpa [isTruthy] using h)
    | text s =>
      obtain rfl : s = "" := by simpa [isTruthy] using h
      exact .text
    | list hitems =>
      obtain rfl := List.isEmpty_iff.mp (by simpa [isTruthy] using h)
      exact .list
    | record hkeys hentries =>
      rename_i entries
      obtain rfl : entries = [] := by simpa [isTruthy, record] using h
      exact .map
  · intro h
    cases h with
    | float hx => simp [isTruthy, hx]
    | null | false | int | text | list | map => rfl

theorem isJson_orderField {v w : Value} (hv : v.IsJson) (h : v.orderField = some w) : w.IsJson := by
  rcases Option.or_eq_some_iff.mp h with h | ⟨-, h⟩
  · exact isJson_field hv h
  · exact isJson_field hv h

end Value

open Value

namespace Reading

variable {α β : Type} {path : List PathStep} {v : Value} {o : Option Value}

theorem isOk_each_iff {read : Nat → α → Reading β} (form : α → Prop) {as : List α}
    (h : ∀ i, ∀ a ∈ as, (read i a).isOk = true ↔ form a) (i : Nat) :
    (each read i as).isOk = true ↔ ∀ a ∈ as, form a := by
  induction as generalizing i with
  | nil => exact iff_of_true rfl nofun
  | cons a as ih =>
    have hrest := ih (fun i b hb => h i b (List.mem_cons_of_mem a hb)) (i + 1)
    rw [each, isOk_ap, isOk_ap, isOk_ok, Bool.true_and, Bool.and_eq_true, h i a List.mem_cons_self,
      hrest, List.forall_mem_cons]

theorem isOk_text (hv : v.IsJson) : (text path v).isOk = true ↔ v.IsText := by
  cases hv with
  | text s => exact iff_of_true rfl (.text s)
  | null | bool | int | float | list | record => exact iff_of_false Bool.false_ne_true nofun

theorem isOk_optionalText (ho : ∀ v, o = some v → v.IsJson) :
    (optionalText path o).isOk = true ↔ IsOptional IsText o := by
  cases o with
  | none => exact iff_of_true rfl .missing
  | some v =>
    cases ho v rfl with
    | null => exact iff_of_true rfl .null
    | text s => exact iff_of_true rfl (.given (.text s))
    | bool | int | float | list | record =>
      rw [isOptional_some]
      · exact iff_of_false Bool.false_ne_true nofun
      · nofun

theorem isOk_requiredText {holder : Value} (ho : ∀ v, o = some v → v.IsJson) :
    (requiredText path holder o).isOk = true ↔ ∃ s, o = some (.text s) := by
  cases o with
  | none => exact iff_of_false Bool.false_ne_true nofun
  | some v =>
    refine (isOk_text (ho v rfl)).trans ⟨?_, ?_⟩
    · rintro ⟨s⟩
      exact ⟨s, rfl⟩
    · rintro ⟨s, hs⟩
      obtain rfl := Option.some.inj hs
      exact .text s

theorem isOk_texts (hv : v.IsJson) : (texts path v).isOk = true ↔ v.IsListOf IsText := by
  cases hv with
  | list hitems =>
    rw [isListOf_list]
    exact isOk_each_iff IsText (fun _ w hw => isOk_text (hitems w hw)) 0
  | null | bool | int | float | text | record => exact iff_of_false Bool.false_ne_true nofun

theorem isOk_fields (ho : ∀ v, o = some v → v.IsJson) :
    (fields path o).isOk = true ↔ IsOptional IsMap o := by
  cases o with
  | none => exact iff_of_true rfl .missing
  | some v =>
    cases ho v rfl with
    | null => exact iff_of_true rfl .null
    | record hkeys hentries =>
      obtain ⟨fs, hread, -⟩ := fields_record path hkeys
      rw [hread]
      exact iff_of_true rfl (.given (.map _))
    | bool | int | float | text | list =>
      rw [isOptional_some]
      · exact iff_of_false Bool.false_ne_true nofun
      · nofun

end Reading

namespace Request

open Reading

variable {path : List PathStep} {v : Value} {o : Option Value}

theorem isOk_readJoin (hv : v.IsJson) : (readJoin path v).isOk = true ↔ v.IsJoin := by
  cases v with
  | map es =>
    have hget {name : String} : ∀ w, get? name es = some w → w.IsJson :=
      fun _ hw => isJson_field hv hw
    simp only [readJoin, isOk_ap, isOk_ok, Bool.true_and, Bool.and_eq_true, isOk_optionalText hget,
      isOk_requiredText hget]
    constructor
    · rintro ⟨⟨⟨hkind, htable⟩, hname⟩, hcondition⟩
      exact ⟨.map es, hkind, htable, hname, hcondition⟩
    · rintro ⟨-, hkind, htable, hname, hcondition⟩
      exact ⟨⟨⟨hkind, htable⟩, hname⟩, hcondition⟩
  | _ => exact iff_of_false Bool.false_ne_true fun h => nomatch h.isMap

theorem isOk_readJoins (ho : ∀ v, o = some v → v.IsJson) :
    (readJoins path o).isOk = true ↔ IsOptional (IsListOf IsJoin) o := by
  cases o with
  | none => exact iff_of_true rfl .missing
  | some v =>
    cases ho v rfl with
    | null => exact iff_of_true rfl .null
    | list hitems =>
      rename_i items
      have heach : (readJoins path (some (.list items))).isOk = true ↔ ∀ w ∈ items, w.IsJoin :=
        isOk_each_iff IsJoin (fun _ w hw => isOk_readJoin (hitems w hw)) 0
      rw [heach, isOptional_some, isListOf_list]
      nofun
    | bool | int | float | text | record =>
      rw [isOptional_some]
      · exact iff_of_false Bool.false_ne_true nofun
      · nofun

theorem isOk_readSelect (ho : ∀ v, o = some v → v.IsJson) :
    (readSelect path o).isOk = true ↔ IsSelect o := by
  cases o with
  | none => exact iff_of_true rfl .missing
  | some v =>
    have hv := ho v rfl
    cases htruthy : v.isTruthy with
    | false =>
      rw [readSelect, htruthy, if_neg Bool.false_ne_true]
      exact iff_of_true rfl (.falsy ((isTruthy_eq_false_iff hv).mp htruthy))
    | true =>
      rw [readSelect, htruthy, if_pos rfl, isOk_texts hv]
      refine ⟨.columns, fun h => ?_⟩
      cases h with
      | columns h => exact h
      | falsy h =>
        have hfalse := (isTruthy_eq_false_iff hv).mpr h
        rw [htruthy] at hfalse
        cases hfalse

theorem isOk_readOrderColumn (hv : v.IsJson) :
    (readOrderColumn path v).isOk = true ↔ v.IsOrderColumn := by
  cases v with
  | map es =>
    have hget {name : String} : ∀ w, get? name es = some w → w.IsJson :=
      fun _ hw => isJson_field hv hw
    simp only [readOrderColumn, isOk_ap, isOk_ok, Bool.true_and, Bool.and_eq_true,
      isOk_optionalText hget]
    constructor
    · rintro ⟨hcolumn, hdirection⟩
      exact ⟨.map es, hcolumn, hdirection⟩
    · rintro ⟨-, hcolumn, hdirection⟩
      exact ⟨hcolumn, hdirection⟩
  | _ => exact iff_of_false Bool.false_ne_true fun h => nomatch h.isMap

theorem isOk_alternatives (hv : v.IsJson) :
    (firstOf [
      (text (path ++ [.name "str"]) v).map .text,
      (texts (path ++ [.name "list[str]"]) v).map .list,
      readOrderColumn (path ++ [.name "OrderByInput"]) v]).isOk = true ↔ v.IsOrder := by
  rw [isOk_firstOf]
  simp only [List.any_cons, List.any_nil, Bool.or_false, Bool.or_eq_true, isOk_map, isOk_text hv,
    isOk_texts hv, isOk_readOrderColumn hv]
  constructor
  · rintro (h | h | h)
    · exact .text h
    · exact .list h
    · exact .column h
  · rintro (h | h | h)
    · exact .inl h
    · exact .inr (.inl h)
    · exact .inr (.inr h)

theorem isOk_readOrderBy (ho : ∀ v, o = some v → v.IsJson) :
    (readOrderBy path o).isOk = true ↔ IsOptional IsOrder o := by
  unfold readOrderBy
  split
  · exact iff_of_true rfl .missing
  · exact iff_of_true rfl .null
  · exact iff_of_true rfl (.given (.text (.text "")))
  · exact iff_of_true rfl (.given (.list (.list nofun)))
  · rename_i v hnull _ _
    rw [isOk_map, isOk_alternatives (ho v rfl), isOptional_some hnull]

theorem isOk_readKeys {es : List (Value × Value)} (hv : (Value.map es).IsJson) :
    (readKeys es).isOk = true := by
  refine (isOk_each_iff (fun _ => True) (fun _ e he => ?_) 0).mpr fun _ _ => trivial
  cases hv with
  | record hkeys hentries =>
    obtain ⟨e', -, rfl⟩ := List.mem_map.mp he
    exact iff_of_true rfl trivial

/-- A value of JSON is read exactly when it is a request. -/
theorem isOk_read (hv : v.IsJson) : (read v).isOk = true ↔ v.IsRequest := by
  cases v with
  | map es =>
    have hget {name : String} : ∀ w, get? name es = some w → w.IsJson :=
      fun _ hw => isJson_field hv hw
    have horder : ∀ w, (get? "orderBy" es).or (get? "order_by" es) = some w → w.IsJson :=
      fun _ hw => isJson_orderField hv hw
    simp only [read, either_snd, isOk_ap, isOk_ok, Bool.true_and, Bool.and_true, Bool.and_eq_true,
      isOk_readKeys hv, isOk_optionalText hget, isOk_fields hget, isOk_readJoins hget,
      isOk_readSelect hget, isOk_readOrderBy horder]
    constructor
    · rintro ⟨⟨⟨⟨⟨⟨⟨hmethod, htable⟩, hparams⟩, hquery⟩, hbody⟩, hjoins⟩, hselect⟩, horder⟩
      exact ⟨.map es, hmethod, htable, hparams, hquery, hbody, hjoins, hselect, horder⟩
    · rintro ⟨-, hmethod, htable, hparams, hquery, hbody, hjoins, hselect, horder⟩
      exact ⟨⟨⟨⟨⟨⟨⟨hmethod, htable⟩, hparams⟩, hquery⟩, hbody⟩, hjoins⟩, hselect⟩, horder⟩
  | _ => exact iff_of_false Bool.false_ne_true fun h => nomatch h.isMap

end Request

namespace Reading

variable {α β : Type} {path : List PathStep} {v : Value}

theorem map_eq_ok {f : α → β} {r : Reading α} {b : β} (h : r.map f = .ok b) :
    ∃ a, r = .ok a ∧ f a = b := by
  cases r with
  | ok a => exact ⟨a, rfl, Reading.ok.inj h⟩
  | faulty es => cases h

theorem firstOf_eq_ok {rs : List (Reading α)} {a : α} (h : firstOf rs = .ok a) : .ok a ∈ rs := by
  induction rs with
  | nil => cases h
  | cons r rs ih =>
    cases r with
    | ok b =>
      rw [← h]
      exact List.mem_cons_self
    | faulty es =>
      rw [firstOf] at h
      split at h
      · rename_i b hb
        exact List.mem_cons_of_mem _ (ih (hb.trans h))
      · cases h

theorem text_json {s : String} (hv : v.IsJson) (h : text path v = .ok s) : v = .text s := by
  cases hv with
  | text t => rw [Reading.ok.inj h]
  | null | bool | int | float | list | record => cases h

theorem each_text_json {items : List Value} {ss : List String} (i : Nat)
    (hitems : ∀ w ∈ items, w.IsJson)
    (h : each (fun i w => text (path ++ [.index i]) w) i items = .ok ss) :
    items = ss.map .text := by
  induction items generalizing i ss with
  | nil => rw [← Reading.ok.inj h, List.map_nil]
  | cons w ws ih =>
    obtain ⟨f, rest, hf, hrest, rfl⟩ := ap_eq_ok_iff.mp h
    obtain ⟨g, s, hg, hs, rfl⟩ := ap_eq_ok_iff.mp hf
    obtain rfl := Reading.ok.inj hg
    rw [List.map_cons, ← text_json (hitems w List.mem_cons_self) hs,
      ← ih (i + 1) (fun x hx => hitems x (List.mem_cons_of_mem w hx)) hrest]

theorem texts_json {ss : List String} (hv : v.IsJson) (h : texts path v = .ok ss) :
    v = .list (ss.map .text) := by
  cases hv with
  | list hitems => rw [each_text_json 0 hitems h]
  | null | bool | int | float | text | record => cases h

end Reading

theorem Direction.read_eq (o : Option String) :
    Direction.read o = ((Request.nonempty o).map fun s => ofWord (Text.upper s)).getD .asc := by
  cases o with
  | none => rfl
  | some s =>
    by_cases hs : s = ""
    · rw [hs]
      rfl
    · have hread : Direction.read (some s) = ofWord (Text.upper s) := by simp [Direction.read]
      rw [hread, Request.nonempty_of_ne hs]
      rfl

/-- What ordering a field asks for. -/
inductive OrderBy.IsAskedBy : Option Value → Option OrderBy → Prop
  | missing : IsAskedBy none none
  | null : IsAskedBy (some .null) none
  | emptyText : IsAskedBy (some (.text "")) none
  | emptyList : IsAskedBy (some (.list [])) none
  | text {s : String} (h : s ≠ "") : IsAskedBy (some (.text s)) (some (.text s))
  | list {ss : List String} (h : ss ≠ []) :
      IsAskedBy (some (.list (ss.map .text))) (some (.list ss))
  | column {v : Value} (h : v.IsMap) :
      IsAskedBy (some v) (some (.column ((Request.textField "column" v).getD "id")
        (((Request.textField "direction" v).map fun s => .ofWord (Text.upper s)).getD .asc)))

theorem OrderBy.eq_none_iff_of_isAskedBy {o : Option Value} {order : Option OrderBy}
    (h : IsAskedBy o order) :
    order = none ↔ o ∈ [none, some .null, some (.text ""), some (.list [])] := by
  cases h with
  | missing | null | emptyText | emptyList => simp
  | text hs => simpa using hs
  | list hss => simpa using hss
  | column hmap =>
    cases hmap with
    | map es => simp

namespace Request

open Reading

variable {path : List PathStep} {v : Value} {o : Option Value}

/-- The columns are those of the field, or all of them where the field is missing or counts as
false. -/
theorem columns_of_readSelect {columns : List String} (ho : ∀ v, o = some v → v.IsJson)
    (h : readSelect path o = .ok columns) : columns ≠ [] ∧
      ((columns = [wildcard] ∧ ∀ v, o = some v → v.IsFalsy) ∨
        o = some (.list (columns.map .text))) := by
  cases o with
  | none =>
    obtain rfl := Reading.ok.inj h
    exact ⟨List.cons_ne_nil _ _, .inl ⟨rfl, nofun⟩⟩
  | some v =>
    have hv := ho v rfl
    rw [readSelect] at h
    split at h
    · rename_i htruthy
      obtain rfl := texts_json hv h
      refine ⟨?_, .inr rfl⟩
      rintro rfl
      cases htruthy
    · rename_i htruthy
      obtain rfl := Reading.ok.inj h
      refine ⟨List.cons_ne_nil _ _, .inl ⟨rfl, ?_⟩⟩
      rintro w ⟨⟩
      exact (isTruthy_eq_false_iff hv).mp (Bool.eq_false_iff.mpr htruthy)

theorem orderColumn_json {order : OrderRequest} (hv : v.IsJson)
    (h : readOrderColumn path v = .ok order) :
    ∃ name direction, order = .column name direction ∧ v.IsMap ∧
      nonempty name = textField "column" v ∧ nonempty direction = textField "direction" v := by
  cases v with
  | map es =>
    obtain ⟨f, direction, hf, hdirection, rfl⟩ := ap_eq_ok_iff.mp h
    obtain ⟨g, name, hg, hname, rfl⟩ := ap_eq_ok_iff.mp hf
    obtain rfl := Reading.ok.inj hg
    exact ⟨name, direction, rfl, .map es, nonempty_optionalText hv hname,
      nonempty_optionalText hv hdirection⟩
  | _ => cases h

theorem isAskedBy_of_readOrderBy {order : Option OrderRequest} (ho : ∀ v, o = some v → v.IsJson)
    (h : readOrderBy path o = .ok order) : OrderBy.IsAskedBy o (order.map .ofRequest) := by
  unfold readOrderBy at h
  split at h
  · obtain rfl := Reading.ok.inj h
    exact .missing
  · obtain rfl := Reading.ok.inj h
    exact .null
  · obtain rfl := Reading.ok.inj h
    exact .emptyText
  · obtain rfl := Reading.ok.inj h
    exact .emptyList
  · rename_i v _ hempty hnil
    have hv := ho v rfl
    obtain ⟨asked, hfirst, rfl⟩ := map_eq_ok h
    have hread := firstOf_eq_ok hfirst
    simp only [List.mem_cons, List.not_mem_nil, or_false] at hread
    rcases hread with h | h | h
    · obtain ⟨s, hs, rfl⟩ := map_eq_ok h.symm
      obtain rfl := text_json hv hs
      exact .text fun hs => hempty (by rw [hs])
    · obtain ⟨ss, hss, rfl⟩ := map_eq_ok h.symm
      obtain rfl := texts_json hv hss
      exact .list fun hss => hnil (by rw [hss]; rfl)
    · obtain ⟨name, direction, rfl, hmap, hname, hdirection⟩ := orderColumn_json hv h.symm
      have hcolumn := OrderBy.IsAskedBy.column hmap
      rw [← hname, ← hdirection, ← Direction.read_eq] at hcolumn
      exact hcolumn

theorem lt_length_digits_tenTo {k : Nat} (hk : 0 < k) : k < (Decimal.digits (tenTo k)).length := by
  refine Nat.lt_of_not_le fun h => ?_
  exact Nat.lt_irrefl _ ((Nat.length_toDigits_le_iff (by decide) hk).mp h)

theorem isLong_int_iff {n : Int} :
    (Number.int n).isLong = true ↔ Decimal.maxDigits < (Decimal.digits n.natAbs).length :=
  decide_eq_true_iff

/-- The least natural number with too many digits is a power of ten. -/
theorem isLong_tenTo : (Number.int (tenTo Decimal.maxDigits)).isLong = true := by
  rw [isLong_int_iff, Int.natAbs_natCast]
  exact lt_length_digits_tenTo (by decide)

/-- A request with a list of one integer in its body is read, but not normalized if the integer is
too long. -/
theorem read_of_listed_integer {n : Int} (hn : (Number.int n).isLong = true) :
    Descriptor.read (.record [("body", .record [("x", .list [.int n])])]) =
      .fault .longInteger [] (.record [("body", .record [("x", .list [.int n])])]) := by
  obtain ⟨q, hq, hw⟩ : ∃ q, read (.record [("body", .record [("x", .list [.int n])])]) = .ok q ∧
      q.isWritable = (!((Number.int n).isLong || false) && true && true) := ⟨_, rfl, rfl⟩
  refine Descriptor.read_of_not_writable hq ?_
  rw [hw, hn]
  rfl

/-- Exactly the requests that can be written out are read, and all requests can that have no integer
with too many digits. What is no request is told with its faults, and a request that cannot be
written out with the one fault that says so. What was read has a column at least and the ordering
that its field asks for. -/
theorem grammar_of_json (hv : v.IsJson) :
    ((∃ r, Descriptor.read v = .ok r) ↔ v.IsRequest ∧ v.IsWritable) ∧
      (v.hasLongInteger = false → v.IsWritable) ∧
      (¬ v.IsRequest → ∃ faults, Descriptor.read v = .faulty faults ∧ faults ≠ [] ∧
        ∀ f ∈ faults, f.kind ≠ .longInteger ∧ f.input.IsPart v) ∧
      (v.IsRequest → ¬ v.IsWritable → Descriptor.read v = .fault .longInteger [] v) ∧
      ∀ r, Descriptor.read v = .ok r →
        r.columns ≠ [] ∧
        (r.columns = [wildcard] ∧ (∀ w, v.field "select" = some w → w.IsFalsy) ∨
          v.field "select" = some (.list (r.columns.map .text))) ∧
        (r.orderBy = none ↔
          v.orderField ∈ [none, some .null, some (.text ""), some (.list [])]) ∧
        OrderBy.IsAskedBy v.orderField r.orderBy := by
  have hok := isOk_read hv
  cases hread : read v with
  | faulty faults =>
    rw [hread] at hok
    have hnot : ¬ v.IsRequest := fun h => Bool.false_ne_true (hok.mpr h)
    rw [Descriptor.read_of_faulty hread]
    exact ⟨iff_of_false nofun fun h => hnot h.1, isWritable_of_short,
      fun _ => ⟨faults, rfl, blames_read v faults hread⟩, fun h => absurd h hnot, nofun⟩
  | ok q =>
    rw [hread] at hok
    have hq := isReadFrom_of_read hread
    have hrequest : v.IsRequest := hok.mp rfl
    obtain ⟨path, horder⟩ := hq.orderBy
    have hasked := isAskedBy_of_readOrderBy (fun _ hw => isJson_orderField hv hw) horder
    obtain ⟨hne, hcolumns⟩ := columns_of_readSelect (fun _ hw => isJson_field hv hw) hq.select
    cases hw : q.isWritable with
    | true =>
      have hwritable := (isWritable_iff hv hq).mp hw
      rw [Descriptor.read_of_writable hread hw]
      refine ⟨iff_of_true ⟨_, rfl⟩ ⟨hrequest, hwritable⟩, isWritable_of_short,
        absurd hrequest, fun _ hnot => absurd hwritable hnot, ?_⟩
      rintro r hr
      obtain rfl := Reading.ok.inj hr
      exact ⟨hne, hcolumns, OrderBy.eq_none_iff_of_isAskedBy hasked, hasked⟩
    | false =>
      have hnot : ¬ v.IsWritable := fun h => Bool.false_ne_true
        (hw.symm.trans ((isWritable_iff hv hq).mpr h))
      rw [Descriptor.read_of_not_writable hread hw]
      exact ⟨iff_of_false nofun fun h => hnot h.2, isWritable_of_short, absurd hrequest,
        fun _ _ => rfl, nofun⟩

/-- An empty selection, an ordering under both names of which the first asks for no column, a join
without a kind, a number where it says how to delete, and a field with an integer that is too long
for a list. -/
theorem grammar_of_fallbacks :
    ∃ v r, v = .record [("select", .record []),
        ("orderBy", .record [("column", .null), ("direction", .text "desc")]),
        ("order_by", .int 3), ("joins", .list [.record [("on", .text ""), ("table", .text "t")]]),
        ("softDelete", .int 0), ("body", .record [("x", .int (tenTo 4300))])] ∧
      v.IsJson ∧ v.IsRequest ∧ v.IsWritable ∧ Descriptor.read v = .ok r ∧ r.columns = ["*"] ∧
      OrderBy.IsAskedBy v.orderField r.orderBy ∧ r.orderBy ≠ none := by
  let order : Value := .record [("column", .null), ("direction", .text "desc")]
  let join : Value := .record [("on", .text ""), ("table", .text "t")]
  let body : Value := .record [("x", .int (tenTo 4300))]
  let v : Value := .record [("select", .record []), ("orderBy", order), ("order_by", .int 3),
    ("joins", .list [join]), ("softDelete", .int 0), ("body", body)]
  have horder : order.IsJson := .record (by decide) (by simpa using ⟨.null, .text "desc"⟩)
  have hjoin : join.IsJson := .record (by decide) (by simpa using ⟨.text "", .text "t"⟩)
  have hempty : (Value.record []).IsJson := .record (by decide) nofun
  have hbody : body.IsJson := .record (by decide) (List.forall_mem_singleton.mpr (.int _))
  have hv : v.IsJson := .record (by decide) (by
    simpa using ⟨hempty, horder, .int 3, .list (by simpa using hjoin), .int 0, hbody⟩)
  obtain ⟨hrequest, -, -, -, hread⟩ := grammar_of_json hv
  obtain ⟨r, hr⟩ : ∃ r, Descriptor.read v = .ok r := ⟨_, rfl⟩
  obtain ⟨-, hcolumns, hnone, hasked⟩ := hread r hr
  obtain ⟨hform, hwritable⟩ := hrequest.mp ⟨r, hr⟩
  refine ⟨v, r, rfl, hv, hform, hwritable, hr, ?_, hasked, ?_⟩
  · rcases hcolumns with ⟨hall, -⟩ | hlist
    · exact hall
    · cases hlist
  · have hfield : v.orderField = some order := rfl
    rw [ne_eq, hnone, hfield]
    simp [order, Value.record]

/-- A value of the form of a request that is not read, because of an integer of 4301 digits in a
list. -/
theorem request_with_long_integer :
    ∃ v, v = .record [("body", .record [("x", .list [.int (tenTo 4300)])])] ∧ v.IsJson ∧
      v.IsRequest ∧ Descriptor.read v = .fault .longInteger [] v ∧
      ¬ ((∃ r, Descriptor.read v = .ok r) ↔ v.IsRequest) := by
  let body : Value := .record [("x", .list [.int (tenTo 4300)])]
  have hlist : (Value.list [.int (tenTo 4300)]).IsJson :=
    .list (List.forall_mem_singleton.mpr (.int _))
  have hbody : body.IsJson := .record (by decide) (List.forall_mem_singleton.mpr hlist)
  have hv : (Value.record [("body", body)]).IsJson :=
    .record (by decide) (List.forall_mem_singleton.mpr hbody)
  have hrequest : (Value.record [("body", body)]).IsRequest := (isOk_read hv).mp rfl
  have hlong := isLong_tenTo
  unfold Decimal.maxDigits at hlong
  have hread := read_of_listed_integer hlong
  refine ⟨_, rfl, hv, hrequest, hread, fun h => ?_⟩
  obtain ⟨r, hr⟩ := h.mpr hrequest
  cases hread.symm.trans hr

end Request

end RequestSql
