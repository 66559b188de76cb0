import RequestSql.Proofs.Request.Form

/-!
# Requests written out

`Request.toValue` writes a request as the value that its sender could have sent, and reading that
gives the request back. Only what reading never gives is left out: no columns, and orderings that
say nothing. The keys come back as those that are written, whatever they were.
-/

namespace RequestSql

def Value.ofText? (o : Option String) : Value := (o.map .text).getD .null

def JoinRequest.toValue (j : JoinRequest) : Value :=
  .record [("type", .ofText? j.kind), ("table", .text j.table), ("alias", .ofText? j.asName),
    ("on", .text j.condition)]

def OrderRequest.toValue : OrderRequest → Value
  | .text e => .text e
  | .list es => .list (es.map .text)
  | .column name direction =>
    .record [("column", .ofText? name), ("direction", .ofText? direction)]

/-- The ordering names something to order by. -/
def OrderRequest.IsProper : OrderRequest → Prop
  | .text e => e ≠ ""
  | .list es => es ≠ []
  | .column _ _ => True

namespace Request

def toValue (q : Request) : Value :=
  .record [("method", .ofText? q.method), ("table", .ofText? q.table),
    ("params", .record q.params.entries), ("query", .record q.query.entries),
    ("body", .record q.body.entries), ("joins", .list (q.joins.map JoinRequest.toValue)),
    ("select", .list (q.select.map .text)),
    ("orderBy", (q.orderBy.map OrderRequest.toValue).getD .null),
    ("softDelete", .bool q.softDelete)]

/-- The keys of a request that was written. -/
def writtenKeys : List String :=
  ["method", "table", "params", "query", "body", "joins", "select", "orderBy", "softDelete"]

end Request

namespace Reading

variable {α β : Type} {path : List PathStep}

theorem optionalText_ofText? (o : Option String) :
    optionalText path (some (.ofText? o)) = .ok o := by
  cases o with
  | none => rfl
  | some s => rfl

theorem fields_entries (fs : Fields Value) : fields path (some (.record fs.entries)) = .ok fs := by
  obtain ⟨fs', hread, hentries⟩ := fields_record path fs.nodup
  rw [hread, Fields.ext hentries]

/-- A list of written items is read back where every item is. -/
theorem each_map {read : Nat → α → Reading β} {write : β → α} (h : ∀ i b, read i (write b) = .ok b)
    (i : Nat) (bs : List β) : each read i (bs.map write) = .ok bs := by
  induction bs generalizing i with
  | nil => rfl
  | cons b bs ih =>
    rw [List.map_cons, each, h, ih]
    rfl

theorem texts_map (ts : List String) : texts path (.list (ts.map .text)) = .ok ts := by
  have hread : ∀ (i : Nat) t, text (path ++ [.index i]) (.text t) = .ok t := fun _ _ => rfl
  exact each_map hread 0 ts

end Reading

namespace Request

variable {path : List PathStep}

theorem readJoin_toValue (j : JoinRequest) : readJoin path j.toValue = .ok j := by
  have hread : readJoin path j.toValue = (Reading.ok JoinRequest.mk
      |>.ap (.optionalText (path ++ [.name "type"]) (some (.ofText? j.kind)))
      |>.ap (.ok j.table)
      |>.ap (.optionalText (path ++ [.name "alias"]) (some (.ofText? j.asName)))
      |>.ap (.ok j.condition)) := rfl
  rw [hread, Reading.optionalText_ofText?, Reading.optionalText_ofText?]
  rfl

theorem readJoins_toValue (js : List JoinRequest) :
    readJoins path (some (.list (js.map JoinRequest.toValue))) = .ok js :=
  Reading.each_map (fun _ j => readJoin_toValue j) 0 js

theorem readSelect_texts {ts : List String} (h : ts ≠ []) :
    readSelect path (some (.list (ts.map .text))) = .ok ts := by
  have htruthy : (Value.list (ts.map .text)).isTruthy = true := by
    cases ts with
    | nil => exact absurd rfl h
    | cons t ts => rfl
  rw [readSelect, htruthy, if_pos rfl, Reading.texts_map]

theorem readOrderBy_toValue {o : Option OrderRequest} (h : ∀ order, o = some order → order.IsProper) :
    readOrderBy path (some ((o.map OrderRequest.toValue).getD .null)) = .ok o := by
  cases o with
  | none => rfl
  | some order =>
    have hproper := h order rfl
    cases order with
    | text e =>
      have he : e ≠ "" := hproper
      simp [OrderRequest.toValue, readOrderBy, he, Reading.text, Reading.map, Reading.firstOf]
    | list es =>
      have hes : es ≠ [] := hproper
      have hread : readOrderBy path (some (.list (es.map .text))) = (Reading.firstOf [
          .fault .notText (path ++ [.name "str"]) (.list (es.map .text)),
          (Reading.texts (path ++ [.name "list[str]"]) (.list (es.map .text))).map .list,
          readOrderColumn (path ++ [.name "OrderByInput"]) (.list (es.map .text))]).map some := by
        cases es with
        | nil => exact absurd rfl hes
        | cons e es => rfl
      change readOrderBy path (some (.list (es.map .text))) = _
      rw [hread, Reading.texts_map]
      rfl
    | column name direction =>
      cases name with
      | none => cases direction <;> rfl
      | some name => cases direction <;> rfl

/-- A request is read back from the value that it is written as. -/
theorem read_toValue {q : Request} (hselect : q.select ≠ [])
    (horder : ∀ order, q.orderBy = some order → order.IsProper) :
    read q.toValue = .ok { q with keys := writtenKeys } := by
  have hread : read q.toValue = (Reading.ok Request.mk
      |>.ap (.optionalText [.name "method"] (some (.ofText? q.method)))
      |>.ap (.optionalText [.name "table"] (some (.ofText? q.table)))
      |>.ap (.fields [.name "params"] (some (.record q.params.entries)))
      |>.ap (.fields [.name "query"] (some (.record q.query.entries)))
      |>.ap (.fields [.name "body"] (some (.record q.body.entries)))
      |>.ap (readJoins [.name "joins"] (some (.list (q.joins.map JoinRequest.toValue))))
      |>.ap (readSelect [.name "select"] (some (.list (q.select.map .text))))
      |>.ap (readOrderBy [.name "orderBy"]
        (some ((q.orderBy.map OrderRequest.toValue).getD .null)))
      |>.ap (.ok (readSoftDelete (some (.bool q.softDelete))))
      |>.ap (.ok writtenKeys)) := rfl
  have hsoft : readSoftDelete (some (.bool q.softDelete)) = q.softDelete := by
    cases q.softDelete with
    | true => rfl
    | false => rfl
  rw [hread, Reading.optionalText_ofText?, Reading.optionalText_ofText?, Reading.fields_entries,
    Reading.fields_entries, Reading.fields_entries, readJoins_toValue, readSelect_texts hselect,
    readOrderBy_toValue horder, hsoft]
  rfl

end Request

end RequestSql
