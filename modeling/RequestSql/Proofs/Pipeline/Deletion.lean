import RequestSql.Proofs.Pipeline.Outcome
import RequestSql.Proofs.Request.Normal
import RequestSql.Proofs.Request.Recognized
import RequestSql.Proofs.Statement.Deletion

/-!
# Deletions as they are asked for

Rows are removed only if the method is `DELETE` and the truth value false stands where a request
says how to delete. With anything else there, or with nothing, the same request becomes the change
that clears the active column in the same rows.
-/

namespace RequestSql

/-- The request to change what a deletion would find: the same table and parameters, and a body that
clears the active column. -/
def Value.deactivating (v : Value) : Value :=
  .record [("method", .text "PUT"), ("table", (v.field "table").getD .null),
    ("params", (v.field "params").getD .null), ("body", .record [("is_active", .bool false)])]

/-- The method is `DELETE`, and the truth value false stands where it says how to delete. -/
structure Value.AsksRemoval (v : Value) : Prop where
  method : Pipeline.methodWord v = "DELETE"
  soft : v.softField = some (.bool false)

/-- The maps differ at most in how they say to delete, in fields that mean nothing and in the order
of their keys. -/
def Value.DiffersInSoft (v w : Value) : Prop :=
  w.recognized = { v.recognized with soft := w.softField }

namespace Request

variable {path : List PathStep} {v : Value} {q : Request}

theorem optionalText_getD_null (o : Option Value) :
    Reading.optionalText path (some (o.getD .null)) = Reading.optionalText path o := by
  cases o <;> rfl

theorem fields_getD_null (o : Option Value) :
    Reading.fields path (some (o.getD .null)) = Reading.fields path o := by
  cases o <;> rfl

theorem exists_record {es : List (Value × Value)} (h : ∀ e ∈ es, ∃ s, e.1 = .text s) :
    ∃ fs, Value.map es = .record fs := by
  induction es with
  | nil => exact ⟨[], rfl⟩
  | cons e es ih =>
    obtain ⟨he, hes⟩ := List.forall_mem_cons.mp h
    obtain ⟨s, hs⟩ := he
    obtain ⟨fs, hfs⟩ := ih hes
    refine ⟨(s, e.2) :: fs, ?_⟩
    rw [Value.record, List.map_cons, ← Value.map.inj hfs, ← hs]

/-- Only maps with text keys are read. -/
theorem record_of_read (h : read v = .ok q) : ∃ es, v = .record es := by
  cases v with
  | map es =>
    obtain ⟨-, keys, -, hkeys, -⟩ := Reading.ap_eq_ok_iff.mp h
    refine exists_record ((Reading.isOk_each_iff (fun e => ∃ s, e.1 = Value.text s) ?_ 0).mp
      (congrArg Reading.isOk hkeys))
    intro i e _
    split
    · rename_i s hs
      exact iff_of_true rfl ⟨s, hs⟩
    · rename_i hother
      refine iff_of_false Bool.false_ne_true ?_
      rintro ⟨s, hs⟩
      exact hother s hs
  | _ => cases h

theorem nonempty_of_kinds {name : String} {t : Option String} (hv : v.HasJsonKinds)
    (h : Reading.optionalText path (v.field name) = .ok t) : nonempty t = textField name v := by
  unfold textField
  cases hfield : v.field name with
  | none =>
    rw [hfield] at h
    obtain rfl := Reading.ok.inj h
    rfl
  | some w =>
    have hw := hv w (Value.isPart_of_field hfield)
    rw [hfield] at h
    cases w with
    | null | text =>
      obtain rfl := Reading.ok.inj h
      rfl
    | bytes | decimal | tuple | scalar => cases hw
    | bool | int | float | list | map => cases h

theorem method_of_kinds (hv : v.HasJsonKinds) (hq : q.IsReadFrom v) :
    (Descriptor.ofRequest q).method = Pipeline.methodWord v := by
  rw [Pipeline.methodWord, ← nonempty_of_kinds hv hq.method]
  rfl

/-- The request to change what a deletion would find is read, and gives the same table and the same
parameters. -/
theorem read_deactivating (hq : q.IsReadFrom v) (hwritable : q.isWritable = true) :
    ∃ c, Descriptor.read v.deactivating = .ok c ∧ c.Deactivates (.ofRequest q) := by
  have hread : read v.deactivating = (Reading.ok Request.mk
      |>.ap (.ok (some "PUT"))
      |>.ap (.optionalText [.name "table"] (some ((v.field "table").getD .null)))
      |>.ap (.fields [.name "params"] (some ((v.field "params").getD .null)))
      |>.ap (.ok .empty) |>.ap (.ok (.ofList [("is_active", .bool false)]))
      |>.ap (.ok []) |>.ap (.ok [wildcard]) |>.ap (.ok none) |>.ap (.ok true)
      |>.ap (.ok ["method", "table", "params", "body"])) := rfl
  rw [optionalText_getD_null, fields_getD_null, hq.table, hq.params] at hread
  have hmethod : Text.upper "PUT" = "PUT" := by decide +kernel
  obtain ⟨htable, hparams, -, -⟩ := isWritable_iff_forall.mp hwritable
  have hfalse : ∀ w ∈ [Value.bool false], w.isFileable = true := List.forall_mem_singleton.mpr rfl
  refine ⟨_, Descriptor.read_of_writable hread ?_, hmethod, rfl, rfl, rfl⟩
  exact isWritable_iff_forall.mpr ⟨htable, hparams, nofun, hfalse⟩

end Request

namespace Pipeline

variable {registry : Registry} {validate : Bool} {v name : Value} {result : Result}
  {r : Descriptor} {d : Dialect} {parse : Parser}

theorem compile_of_statement {s : Statement} (validate : Bool) (parse : Parser)
    (hr : Descriptor.read v = .ok r) (hd : registry.find name = .ok d)
    (hs : Statement.compile d r = .ok s) :
    ∃ result, compile registry validate v name parse = .ok result ∧ result.statement = s := by
  rw [compile_of_read hr]
  simp only [compileDescriptor, hd, hs]
  exact ⟨_, rfl, rfl⟩

theorem isSoft_eq_false_iff : isSoft v = false ↔ v.softField = some (.bool false) := by
  unfold isSoft Value.softField
  split
  · rename_i h
    exact iff_of_true rfl h
  · rename_i h
    exact iff_of_false nofun h

/-- A request that differs from a deletion at most in how it says to delete is a deletion of the
same rows. -/
theorem compile_of_differsInSoft {q : Request} {table : String} {es fs : List (String × Value)}
    (validate : Bool) (parse : Parser) (hq : Request.read (.record es) = .ok q)
    (hwritable : q.isWritable = true) (hd : registry.find name = .ok d)
    (hr : (Descriptor.ofRequest q).IsDeletionFrom table)
    (h : (Value.record es).DiffersInSoft (.record fs)) :
    ∃ other, compile registry validate (.record fs) name parse = .ok other ∧
      Statement.IsDeletion d table (Statement.deletionFilter d (.ofRequest q))
        (plainParams (scalarParams q.params)) (isSoft (.record fs)) other.statement := by
  have hvalue : (Request.read (.record fs)).value? = some { q with
      softDelete := isSoft (.record fs), keys := fs.map Prod.fst } := by
    rw [Request.value?_read, h, Request.request?_soft, Request.request?_keys _ (es.map Prod.fst),
      ← Request.value?_read, hq]
    rfl
  have hread : Descriptor.read (.record fs) = .ok { Descriptor.ofRequest q with
      softDelete := isSoft (.record fs), inputKeys := fs.map Prod.fst } :=
    Descriptor.read_of_writable (Reading.value?_eq_some_iff.mp hvalue) hwritable
  have hdeletion : ({ Descriptor.ofRequest q with
      softDelete := isSoft (.record fs), inputKeys := fs.map Prod.fst } :
        Descriptor).IsDeletionFrom table :=
    ⟨hr.method, hr.table_eq, hr.table_ne, hr.params⟩
  obtain ⟨s, hs, hform⟩ := Statement.compile_of_isDeletionFrom (d := d) hdeletion
  obtain ⟨other, hother, rfl⟩ := compile_of_statement validate parse hread hd hs
  exact ⟨other, hother, hform⟩

/-- Whatever compiles removes rows, begins like a statement that does, and tells so in its metadata,
exactly if it asks for that with an explicit false. A deletion finds the same rows and tells of the
same parameters whatever stands where it says how to delete, and where that is not false its text is
the one of every change with the same table and parameters that clears the active column. -/
theorem deletion_of_json (hv : v.HasJsonKinds)
    (h : compile registry validate v name parse = .ok result) :
    (result.statement.operation = .delete ↔ v.AsksRemoval) ∧
      ("DELETE FROM ".toList <+: result.statement.sql.toList ↔ v.AsksRemoval) ∧
      ((∃ params, result.statement.metadata = .delete false params) ↔ v.AsksRemoval) ∧
      (methodWord v = "DELETE" → ∃ r d table filter params,
        Descriptor.read v = .ok r ∧ registry.find name = .ok d ∧ r.table = some table ∧
        "WHERE ".toList <+: filter.toList ∧
        Statement.IsDeletion d table filter params (isSoft v) result.statement ∧
        (∀ fs, v.DiffersInSoft (.record fs) →
          ∃ other, compile registry validate (.record fs) name parse = .ok other ∧
            Statement.IsDeletion d table filter params (isSoft (.record fs)) other.statement) ∧
        (∃ c, Descriptor.read v.deactivating = .ok c ∧ c.Deactivates r) ∧
        ∀ u c, Descriptor.read u = .ok c → c.Deactivates r →
          ∃ changed, compile registry validate u name parse = .ok changed ∧
            changed.statement.operation = .update ∧
            changed.statement.sql = Statement.deactivation d table filter) := by
  obtain ⟨r, hr⟩ : ∃ r, Descriptor.read v = .ok r := by
    unfold compile at h
    split at h
    · cases h
    · exact ⟨_, ‹_›⟩
  obtain ⟨q, hq, hwritable, rfl⟩ := Descriptor.read_eq_ok hr
  obtain ⟨d, hd, hs, -, -⟩ := compileDescriptor_eq_ok ((compile_of_read hr).symm.trans h)
  have hfrom := Request.isReadFrom_of_read hq
  have hmethod := Request.method_of_kinds hv hfrom
  have hsoft : q.softDelete = isSoft v := softDelete_eq hfrom
  have hasks : (Descriptor.ofRequest q).method = "DELETE" ∧ q.softDelete = false ↔
      v.AsksRemoval := by
    rw [hmethod, hsoft, isSoft_eq_false_iff]
    exact ⟨fun ⟨hm, hs⟩ => ⟨hm, hs⟩, fun ⟨hm, hs⟩ => ⟨hm, hs⟩⟩
  obtain ⟨hoperation, htext, hmetadata⟩ := Statement.removes_of_compile hs
  refine ⟨hoperation.trans hasks, htext.trans hasks, hmetadata.trans hasks, fun hm => ?_⟩
  obtain ⟨table, hdeletion⟩ := Statement.isDeletionFrom_of_compile hs (hmethod.trans hm)
  obtain ⟨es, rfl⟩ := Request.record_of_read hq
  have hothers (fs : List (String × Value)) (hfs : (Value.record es).DiffersInSoft (.record fs)) :=
    compile_of_differsInSoft validate parse hq hwritable hd hdeletion hfs
  obtain ⟨s, hcompile, hform⟩ := Statement.compile_of_isDeletionFrom (d := d) hdeletion
  obtain rfl := Except.ok.inj (hcompile.symm.trans hs)
  refine ⟨_, d, table, _, _, hr, hd, hdeletion.table_eq,
    Statement.where_deletionFilter hdeletion, hsoft ▸ hform, hothers,
    Request.read_deactivating hfrom hwritable, fun u c hu hc => ?_⟩
  obtain ⟨t, ht, hop, hsql⟩ := Statement.compile_of_deactivates (d := d) hdeletion hc
  obtain ⟨changed, hchanged, rfl⟩ := compile_of_statement validate parse hu hd ht
  exact ⟨changed, hchanged, hop, hsql⟩

/-- A deletion that says false under the first name and true under the second, the same one with a
zero there, and the change that clears the column. -/
theorem deletion_of_zero :
    ∃ v fs result other changed, v = .record [("method", .text "delete"), ("table", .text "t"),
        ("softDelete", .bool false), ("soft_delete", .bool true),
        ("params", .record [("id", .int 5)])] ∧
      fs = [("softDelete", .int 0), ("params", .record [("id", .int 5)]), ("table", .text "t"),
        ("method", .text "delete")] ∧
      v.HasJsonKinds ∧ v.AsksRemoval ∧ v.DiffersInSoft (.record fs) ∧
      compile .builtin true v (.text "mysql") Lexical.parse = .ok result ∧
      result.statement.operation = .delete ∧
      compile .builtin true (.record fs) (.text "mysql") Lexical.parse = .ok other ∧
      other.statement.operation = .update ∧
      compile .builtin true v.deactivating (.text "mysql") Lexical.parse = .ok changed ∧
      changed.statement.sql = other.statement.sql := by
  let fields : List (String × Value) := [("method", .text "delete"), ("table", .text "t"),
    ("softDelete", .bool false), ("soft_delete", .bool true), ("params", .record [("id", .int 5)])]
  let fs : List (String × Value) := [("softDelete", .int 0), ("params", .record [("id", .int 5)]),
    ("table", .text "t"), ("method", .text "delete")]
  have hparams : (Value.record [("id", .int 5)]).IsJson :=
    .record (by decide) (by simpa using .int 5)
  have hv : (Value.record fields).HasJsonKinds := Value.IsJson.hasJsonKinds (.record (by decide)
    (by simpa [fields] using ⟨.text _, .text _, .bool _, .bool _, hparams⟩))
  have hasks : (Value.record fields).AsksRemoval := ⟨by decide +kernel, rfl⟩
  have hdiffers : (Value.record fields).DiffersInSoft (.record fs) := rfl
  obtain ⟨r, hr⟩ : ∃ r, Descriptor.read (.record fields) = .ok r := ⟨_, rfl⟩
  have hfrom : r.IsDeletionFrom "t" := by
    obtain rfl := Reading.ok.inj hr
    exact ⟨by decide +kernel, rfl, by decide, rfl⟩
  have hd : Registry.builtin.find (.text "mysql") = .ok .mysql := rfl
  obtain ⟨s, hs, -⟩ := Statement.compile_of_isDeletionFrom (d := .mysql) hfrom
  obtain ⟨result, hresult, -⟩ := compile_of_statement true Lexical.parse hr hd hs
  obtain ⟨hremoves, -, -, hdeletion⟩ := deletion_of_json hv hresult
  obtain ⟨r', d, table, filter, params, -, -, -, -, -, hothers, ⟨c, hc, hdeactivates⟩,
    hchanges⟩ := hdeletion hasks.method
  obtain ⟨other, hother, hform⟩ := hothers fs hdiffers
  obtain ⟨changed, hchanged, -, hsql⟩ := hchanges _ c hc hdeactivates
  exact ⟨_, fs, result, other, changed, rfl, rfl, hv, hasks, hdiffers, hresult,
    hremoves.mpr hasks, hother, hform.operation, hchanged, hsql.trans hform.sql.symm⟩

end Pipeline

end RequestSql
