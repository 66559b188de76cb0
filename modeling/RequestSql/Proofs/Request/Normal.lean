import RequestSql.Proofs.Request.Grammar
import RequestSql.Proofs.Request.Keyword
import RequestSql.Proofs.Request.Written
import RequestSql.Proofs.Statement.Dependence

/-!
# Normal descriptors

What a request is read as is normal: its method and its keywords are in upper case, its parameters
are filed, and no part of it would be taken for missing. A normal descriptor with a table comes back
from the request that it is written as, so normalizing a second time changes nothing but the keys.
-/

namespace RequestSql

open Reading

namespace Value

def isJsonKind : Value → Bool
  | .null | .bool _ | .int _ | .float _ | .text _ | .list _ | .map _ => true
  | .decimal _ | .bytes _ | .tuple _ | .scalar _ => false

/-- Every part of the value is of a kind of JSON. Unlike in JSON, keys may be of any of these kinds
and may repeat. -/
def HasJsonKinds (v : Value) : Prop := ∀ w : Value, w.IsPart v → w.isJsonKind = true

theorem IsJson.hasJsonKinds {v : Value} (hv : v.IsJson) : v.HasJsonKinds := by
  intro w hw
  induction hw with
  | self =>
    cases hv with
    | null | bool | int | float | text | list | record => rfl
  | item hmem _ ih =>
    cases hv with
    | list hitems => exact ih (hitems _ hmem)
  | tupleItem => cases hv
  | key hmem _ ih =>
    cases hv with
    | record hkeys hentries =>
      obtain ⟨e, -, rfl⟩ := List.mem_map.mp hmem
      exact ih (.text e.1)
  | entry hmem _ ih =>
    cases hv with
    | record hkeys hentries =>
      obtain ⟨e, he, rfl⟩ := List.mem_map.mp hmem
      exact ih (hentries e he)

end Value

theorem Scalar.isPlain_ofValue {v : Value} (h : v.isJsonKind = true) :
    (Scalar.ofValue v).IsPlain := by
  intro b hb
  cases v with
  | decimal | bytes | tuple | scalar => cases h
  | null | bool | int | float | text | list | map => cases hb

theorem Scalar.isFileable_toValue (s : Scalar) : s.toValue.isFileable = true := by
  cases s with
  | null | bool | text => rfl
  | number n => cases n <;> rfl

theorem scalarParams_plainParams {params : Fields Scalar}
    (h : ∀ e ∈ params.entries, e.2.IsPlain) : scalarParams (plainParams params) = params :=
  Fields.ext (filed_plainParams h)

def Join.toRequest (j : Join) : JoinRequest where
  kind := some j.kind.text
  table := j.table
  asName := j.asName
  condition := j.condition

def OrderBy.toRequest? : OrderBy → Option OrderRequest
  | .text e => some (.text e)
  | .list es => some (.list es)
  | .column name direction => some (.column (some name) (some direction.text))
  | .unknown _ => none

/-- The request that asks for a descriptor, with plain values and the words of its keywords. -/
def Descriptor.toRequest (r : Descriptor) : Request where
  method := some r.method
  table := r.table
  params := plainParams r.pathParams
  query := plainParams r.queryParams
  body := plainParams r.body
  joins := r.joins.map Join.toRequest
  select := r.columns
  orderBy := r.orderBy.bind OrderBy.toRequest?
  softDelete := r.softDelete
  keys := r.inputKeys

inductive OrderBy.IsNormal : OrderBy → Prop
  | text {e : String} (h : e ≠ "") : IsNormal (.text e)
  | list {es : List String} (h : es ≠ []) : IsNormal (.list es)
  | column {name : String} (h : name ≠ "") (o : Option String) : IsNormal (.column name (.read o))

structure Descriptor.IsNormal (r : Descriptor) : Prop where
  method_ne : r.method ≠ ""
  method_upper : Text.upper r.method = r.method
  table_ne : ∀ table, r.table = some table → table ≠ ""
  path : ∀ e ∈ r.pathParams.entries, e.2.IsPlain
  query : ∀ e ∈ r.queryParams.entries, e.2.IsPlain
  body : ∀ e ∈ r.body.entries, e.2.IsPlain
  joins : ∀ j ∈ r.joins, JoinKind.read (some j.kind.text) = j.kind
  columns_ne : r.columns ≠ []
  orderBy : ∀ o, r.orderBy = some o → o.IsNormal

section Written

variable {r : Descriptor}

theorem Join.ofRequest_toRequest {j : Join} (h : JoinKind.read (some j.kind.text) = j.kind) :
    Join.ofRequest j.toRequest = j := by
  cases j
  simp only [ofRequest, toRequest] at h ⊢
  rw [h]

theorem OrderBy.ofRequest_toRequest? {o : OrderBy} (h : o.IsNormal) :
    ∃ order, o.toRequest? = some order ∧ order.IsProper ∧ ofRequest order = o := by
  cases h with
  | text he => exact ⟨_, rfl, he, rfl⟩
  | list hes => exact ⟨_, rfl, hes, rfl⟩
  | column hname o =>
    refine ⟨_, rfl, trivial, ?_⟩
    rw [ofRequest, Request.nonempty_of_ne hname, Direction.read_text]
    rfl

theorem orderBy_toRequest (h : ∀ o, r.orderBy = some o → o.IsNormal) :
    (∀ order, r.toRequest.orderBy = some order → order.IsProper) ∧
      r.toRequest.orderBy.map .ofRequest = r.orderBy := by
  change (∀ order, r.orderBy.bind OrderBy.toRequest? = some order → _) ∧
    (r.orderBy.bind OrderBy.toRequest?).map .ofRequest = r.orderBy
  cases ho : r.orderBy with
  | none => exact ⟨nofun, rfl⟩
  | some o =>
    obtain ⟨order, horder, hproper, hback⟩ := OrderBy.ofRequest_toRequest? (h o ho)
    rw [Option.bind_some, horder, Option.map_some, hback]
    refine ⟨fun order' h' => ?_, rfl⟩
    obtain rfl := Option.some.inj h'
    exact hproper

theorem resolvedTable_toRequest {table : String} (ht : r.table = some table) (hne : table ≠ "") :
    r.toRequest.resolvedTable = some table := by
  have htable : r.toRequest.table = some table := ht
  rw [Request.resolvedTable, htable, Request.nonempty_of_ne hne]

/-- A normal descriptor with a table is that of the request that asks for it. -/
theorem Descriptor.ofRequest_toRequest {table : String} (h : r.IsNormal)
    (ht : r.table = some table) : ofRequest r.toRequest = r := by
  have hmethod : Text.upper ((Request.nonempty (some r.method)).getD "GET") = r.method := by
    rw [Request.nonempty_of_ne h.method_ne, Option.getD_some, h.method_upper]
  have hjoins : (r.joins.map Join.toRequest).map Join.ofRequest = r.joins := by
    rw [List.map_map]
    refine (List.map_congr_left fun j hj => ?_).trans (List.map_id _)
    exact Join.ofRequest_toRequest (h.joins j hj)
  have htable := (resolvedTable_toRequest ht (h.table_ne table ht)).trans ht.symm
  have horder := (orderBy_toRequest h.orderBy).2
  rw [ofRequest, htable, horder]
  simp only [toRequest, hmethod, scalarParams_plainParams h.path, scalarParams_plainParams h.query,
    scalarParams_plainParams h.body, hjoins]

/-- Plain values need no display, and the table of the request is its own field. -/
theorem Descriptor.isWritable_toRequest {table : String} (ht : r.table = some table)
    (hne : table ≠ "") : r.toRequest.isWritable = true := by
  have htable : Request.nonempty r.toRequest.table = some table := by
    rw [toRequest, ht, Request.nonempty_of_ne hne]
  have hplain (params : Fields Scalar) :
      ∀ w ∈ (plainParams params).values, w.isFileable = true := by
    intro w hw
    obtain ⟨e, he, rfl⟩ := List.mem_map.mp hw
    obtain ⟨e', -, rfl⟩ := List.mem_map.mp he
    exact Scalar.isFileable_toValue e'.2
  refine Request.isWritable_iff_forall.mpr ⟨?_, hplain _, hplain _, hplain _⟩
  exact Request.hasWritableTable_iff.mpr fun hnone => nomatch htable.symm.trans hnone

theorem Descriptor.read_toRequest {table : String} (h : r.IsNormal) (ht : r.table = some table) :
    Descriptor.read r.toRequest.toValue = .ok { r with inputKeys := Request.writtenKeys } := by
  have hread := Request.read_toValue h.columns_ne (orderBy_toRequest h.orderBy).1
  have hsame : Descriptor.ofRequest { r.toRequest with keys := Request.writtenKeys } =
      { ofRequest r.toRequest with inputKeys := Request.writtenKeys } := rfl
  rw [read_of_writable hread (isWritable_toRequest ht (h.table_ne table ht)), hsame,
    ofRequest_toRequest h ht]

end Written

section Read

variable {α β : Type} {path : List PathStep} {v : Value} {o : Option Value} {q : Request}

theorem Reading.each_eq_ok {read : Nat → α → Reading β} {as : List α} {bs : List β} {i : Nat}
    (h : each read i as = .ok bs) :
    bs.length = as.length ∧ ∀ b ∈ bs, ∃ j, ∃ a ∈ as, read j a = .ok b := by
  induction as generalizing i bs with
  | nil =>
    obtain rfl := Reading.ok.inj h
    exact ⟨rfl, nofun⟩
  | cons a as ih =>
    obtain ⟨f, rest, hf, hrest, rfl⟩ := ap_eq_ok_iff.mp h
    obtain ⟨g, b, hg, hb, rfl⟩ := ap_eq_ok_iff.mp hf
    obtain rfl := Reading.ok.inj hg
    obtain ⟨hlength, hmem⟩ := ih hrest
    refine ⟨congrArg (· + 1) hlength, List.forall_mem_cons.mpr ⟨?_, fun x hx => ?_⟩⟩
    · exact ⟨i, a, List.mem_cons_self, hb⟩
    · obtain ⟨j, a', ha', hread⟩ := hmem x hx
      exact ⟨j, a', List.mem_cons_of_mem a ha', hread⟩

/-- What stands in fields that were read is part of the value. -/
theorem Reading.isPart_of_fields {fs : Fields Value} (h : fields path o = .ok fs) :
    ∀ e ∈ fs.entries, ∃ v, o = some v ∧ e.2.IsPart v := by
  intro e he
  unfold fields at h
  split at h
  · obtain rfl := Reading.ok.inj h
    cases he
  · obtain rfl := Reading.ok.inj h
    cases he
  · obtain ⟨entries, heach, rfl⟩ := map_eq_ok h
    rcases Fields.mem_entries_append he with hempty | he
    · cases hempty
    · obtain ⟨j, a, ha, hentry⟩ := (each_eq_ok heach).2 e he
      obtain ⟨key, -, rfl⟩ := map_eq_ok hentry
      exact ⟨_, rfl, .entry ha (.self a.2)⟩
  · cases h

theorem Request.isPlain_of_fields {name : String} {fs : Fields Value} (hv : v.HasJsonKinds)
    (h : fields path (v.field name) = .ok fs) : ∀ e ∈ (scalarParams fs).entries, e.2.IsPlain := by
  intro e he
  obtain ⟨e', he', rfl⟩ := List.mem_map.mp he
  obtain ⟨w, hw, hpart⟩ := isPart_of_fields h e' he'
  exact Scalar.isPlain_ofValue (hv e'.2 (hpart.trans (Value.isPart_of_field hw)))

theorem Request.resolvedTable_ne {table : String} (h : q.resolvedTable = some table) :
    table ≠ "" := by
  unfold resolvedTable at h
  split at h
  · rename_i t ht
    obtain rfl := Option.some.inj h
    exact nonempty_ne ht
  · split at h
    · split at h
      · rename_i htruthy
        obtain rfl := Option.some.inj h
        exact Value.display_ne_empty htruthy
      · cases h
    · cases h

theorem Request.select_ne {columns : List String} (h : readSelect path o = .ok columns) :
    columns ≠ [] := by
  unfold readSelect at h
  split at h
  · obtain rfl := Reading.ok.inj h
    exact List.cons_ne_nil _ _
  · rename_i v
    split at h
    · rename_i htruthy
      unfold texts at h
      split at h
      · rename_i items hitems
        have hlength := (each_eq_ok h).1
        rintro rfl
        obtain rfl := List.eq_nil_of_length_eq_zero hlength.symm
        -- an empty list or tuple counts as false
        cases v with
        | list | tuple =>
          obtain rfl := Option.some.inj hitems
          cases htruthy
        | _ => cases hitems
      · cases h
    · obtain rfl := Reading.ok.inj h
      exact List.cons_ne_nil _ _

theorem Request.isNormal_of_readOrderBy {order : OrderRequest}
    (ho : ∀ v, o = some v → v.isJsonKind = true) (h : readOrderBy path o = .ok (some order)) :
    (OrderBy.ofRequest order).IsNormal := by
  unfold readOrderBy at h
  split at h
  · cases Reading.ok.inj h
  · cases Reading.ok.inj h
  · cases Reading.ok.inj h
  · cases Reading.ok.inj h
  · rename_i v _ hempty hnil
    have hv := ho v rfl
    obtain ⟨asked, hfirst, hasked⟩ := map_eq_ok h
    obtain rfl := Option.some.inj hasked
    have hread := firstOf_eq_ok hfirst
    simp only [List.mem_cons, List.not_mem_nil, or_false] at hread
    rcases hread with h | h | h
    · obtain ⟨s, hs, rfl⟩ := map_eq_ok h.symm
      cases v with
      | text t =>
        obtain rfl := Reading.ok.inj hs
        exact .text fun ht => hempty (by rw [ht])
      | bytes => cases hv
      | _ => cases hs
    · obtain ⟨ss, hss, rfl⟩ := map_eq_ok h.symm
      cases v with
      | list items =>
        have hlength := (each_eq_ok hss).1
        refine .list fun hss => hnil ?_
        rw [hss] at hlength
        rw [List.eq_nil_of_length_eq_zero hlength.symm]
      | tuple => cases hv
      | _ => cases hss
    · cases v with
      | map es =>
        obtain ⟨f, direction, hf, -, rfl⟩ := ap_eq_ok_iff.mp h.symm
        obtain ⟨g, name, hg, -, rfl⟩ := ap_eq_ok_iff.mp hf
        obtain rfl := Reading.ok.inj hg
        refine .column ?_ direction
        cases hname : nonempty name with
        | none => decide
        | some s => exact nonempty_ne hname
      | _ => cases h

/-- What a value of the kinds of JSON is read as is normal. -/
theorem Request.isNormal_of_isReadFrom (hv : v.HasJsonKinds) (hq : q.IsReadFrom v) :
    (Descriptor.ofRequest q).IsNormal where
  method_ne := by
    refine Text.upper_ne_empty ?_
    cases hmethod : nonempty q.method with
    | none => decide
    | some s => exact nonempty_ne hmethod
  method_upper := Text.upper_upper _
  table_ne _ ht := resolvedTable_ne ht
  path := isPlain_of_fields hv hq.params
  query := isPlain_of_fields hv hq.query
  body := isPlain_of_fields hv hq.body
  joins := by
    intro j hj
    obtain ⟨j', -, rfl⟩ := List.mem_map.mp hj
    exact JoinKind.read_text j'.kind
  columns_ne := select_ne hq.select
  orderBy := by
    intro o ho
    obtain ⟨order, horder, rfl⟩ := Option.map_eq_some_iff.mp ho
    obtain ⟨path, hread⟩ := hq.orderBy
    rw [horder] at hread
    refine isNormal_of_readOrderBy (fun w hw => ?_) hread
    rcases Option.or_eq_some_iff.mp hw with hw | ⟨-, hw⟩
    · exact hv w (Value.isPart_of_field hw)
    · exact hv w (Value.isPart_of_field hw)

/-- Normalizing is idempotent. A descriptor with a table is written as a request and read again, and
it is the same but for the keys; it compiles to the same statement or fails for the same reason,
under every dialect. -/
theorem Descriptor.read_again {v : Value} {r : Descriptor} {table : String} (hv : v.HasJsonKinds)
    (hr : Descriptor.read v = .ok r) (ht : r.table = some table) :
    ∃ r', Descriptor.read r.toRequest.toValue = .ok r' ∧
      r' = { r with inputKeys := r'.inputKeys } ∧
      ∀ d, Statement.Agree (fun s t => t = s.withKeys r'.inputKeys)
        (Statement.compile d r) (Statement.compile d r') := by
  obtain ⟨q, hq, -, rfl⟩ := Descriptor.read_eq_ok hr
  have hnormal := Request.isNormal_of_isReadFrom hv (Request.isReadFrom_of_read hq)
  refine ⟨_, read_toRequest hnormal ht, rfl, fun d => ?_⟩
  have hkeys := Statement.compile_withKeys d (ofRequest q) Request.writtenKeys
  rw [hkeys]
  cases Statement.compile d (ofRequest q) with
  | error e => exact .failed e
  | ok s => exact .compiled rfl

/-- A method in lower case, a table that is the display of a list, a kind of join that grows in
upper case, an ordering without a column, and a number where it says how to delete. -/
theorem Descriptor.read_again_of_fallbacks :
    ∃ v r r', v = .record [("method", .text "get"),
        ("params", .record [("table", .list [.int 7]), ("id", .null)]), ("select", .text ""),
        ("joins", .list [.record [("type", .text "straße"), ("table", .text "t"),
          ("on", .text "")]]),
        ("order_by", .record [("direction", .text "ǆ")]), ("softDelete", .int 0)] ∧
      v.HasJsonKinds ∧ Descriptor.read v = .ok r ∧ r.table = some "[7]" ∧ r.method = "GET" ∧
      r.joins = [{ table := "t", condition := "", kind := .custom "STRASSE" }] ∧
      r.orderBy = some (.column "id" (.custom "Ǆ")) ∧
      Descriptor.read r.toRequest.toValue = .ok r' ∧ r' = { r with inputKeys := r'.inputKeys } := by
  let join : Value := .record [("type", .text "straße"), ("table", .text "t"), ("on", .text "")]
  let params : Value := .record [("table", .list [.int 7]), ("id", .null)]
  let order : Value := .record [("direction", .text "ǆ")]
  let v : Value := .record [("method", .text "get"), ("params", params), ("select", .text ""),
    ("joins", .list [join]), ("order_by", order), ("softDelete", .int 0)]
  have hjoin : join.IsJson := .record (by decide) (by simpa using ⟨.text _, .text _, .text _⟩)
  have hparams : params.IsJson :=
    .record (by decide) (by simpa using ⟨.list (by simpa using .int 7), .null⟩)
  have horder : order.IsJson := .record (by decide) (by simpa using .text _)
  have hv : v.IsJson := .record (by decide) (by
    simpa using ⟨.text _, hparams, .text _, .list (by simpa using hjoin), horder, .int 0⟩)
  obtain ⟨r, hr⟩ : ∃ r, Descriptor.read v = .ok r := ⟨_, rfl⟩
  have ht : r.table = some "[7]" := by
    obtain rfl := Reading.ok.inj hr
    decide +kernel
  obtain ⟨r', hagain, hsame, -⟩ := Descriptor.read_again hv.hasJsonKinds hr ht
  refine ⟨v, r, r', rfl, hv.hasJsonKinds, hr, ht, ?_, ?_, ?_, hagain, hsame⟩
  · obtain rfl := Reading.ok.inj hr
    decide +kernel
  · obtain rfl := Reading.ok.inj hr
    decide +kernel
  · obtain rfl := Reading.ok.inj hr
    have hdirection : Direction.read (some "ǆ") = .custom "Ǆ" := by decide +kernel
    change some (OrderBy.column "id" (.read (some "ǆ"))) = _
    rw [hdirection]

end Read

end RequestSql
