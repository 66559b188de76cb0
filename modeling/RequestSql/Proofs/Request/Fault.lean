import RequestSql.Proofs.Value.Json
import RequestSql.Request.Read

/-!
# Where the faults of a request are

A reading that fails has a fault, and all of its faults are mismatches of form at parts of the value
that is read: the value itself, an item, a key or what stands under a key. The joins of readings
keep this, so it is shown once for each of them and then for every part of a request by the shape of
its definition.
-/

namespace RequestSql

namespace Value

/-- The first value is the second one or stands somewhere in it. -/
inductive IsPart : Value → Value → Prop
  | self (v : Value) : IsPart v v
  | item {w v : Value} {items : List Value} (hv : v ∈ items) (h : IsPart w v) :
      IsPart w (.list items)
  | tupleItem {w v : Value} {items : List Value} (hv : v ∈ items) (h : IsPart w v) :
      IsPart w (.tuple items)
  | key {w : Value} {e : Value × Value} {entries : List (Value × Value)} (he : e ∈ entries)
      (h : IsPart w e.1) : IsPart w (.map entries)
  | entry {w : Value} {e : Value × Value} {entries : List (Value × Value)} (he : e ∈ entries)
      (h : IsPart w e.2) : IsPart w (.map entries)

theorem IsPart.trans {u v w : Value} (huv : IsPart u v) (hvw : IsPart v w) : IsPart u w := by
  induction hvw with
  | self => exact huv
  | item hv _ ih => exact .item hv ih
  | tupleItem hv _ ih => exact .tupleItem hv ih
  | key he _ ih => exact .key he ih
  | entry he _ ih => exact .entry he ih

theorem isPart_of_items? {v : Value} {vs : List Value} (h : Reading.items? v = some vs) :
    ∀ w ∈ vs, IsPart w v := by
  intro w hw
  cases v with
  | list items =>
    obtain rfl := Option.some.inj h
    exact .item hw (.self w)
  | tuple items =>
    obtain rfl := Option.some.inj h
    exact .tupleItem hw (.self w)
  | _ => cases h

theorem mem_of_get? {name : String} {es : List (Value × Value)} {w : Value}
    (h : get? name es = some w) : (.text name, w) ∈ es := by
  fun_induction get? name es with
  | case1 => cases h
  | case2 v es =>
    obtain rfl := Option.some.inj h
    exact List.mem_cons_self
  | case3 k v es hne ih => exact List.mem_cons_of_mem _ (ih h)
  | case4 e es hkey ih => exact List.mem_cons_of_mem _ (ih h)

theorem isPart_of_get? {name : String} {es : List (Value × Value)} {w : Value}
    (h : get? name es = some w) : IsPart w (.map es) :=
  .entry (mem_of_get? h) (.self w)

theorem isPart_of_field {v w : Value} {name : String} (h : v.field name = some w) :
    w.IsPart v := by
  cases v with
  | map es => exact isPart_of_get? h
  | _ => cases h

end Value

namespace Reading

variable {α β : Type} {p : Value → Prop} {path : List PathStep}

/-- The fault is a mismatch of form at a value with the property. -/
def IsMismatch (p : Value → Prop) (f : Fault) : Prop := f.kind ≠ .longInteger ∧ p f.input

/-- Where the reading fails there is a fault, and every fault is a mismatch at a value with the
property. -/
def Blames (p : Value → Prop) (r : Reading α) : Prop :=
  ∀ faults, r = .faulty faults → faults ≠ [] ∧ ∀ f ∈ faults, IsMismatch p f

namespace Blames

theorem ok (a : α) : (Reading.ok a).Blames p := nofun

theorem fault {kind : FaultKind} {v : Value} (hkind : kind ≠ .longInteger) (h : p v) :
    (Reading.fault kind path v : Reading α).Blames p := by
  intro faults hfaults
  obtain rfl := Reading.faulty.inj hfaults
  refine ⟨List.cons_ne_nil _ _, fun f hf => ?_⟩
  obtain rfl := List.mem_singleton.mp hf
  exact ⟨hkind, h⟩

theorem map {r : Reading α} (h : r.Blames p) (f : α → β) : (r.map f).Blames p := by
  intro faults hfaults
  cases r with
  | ok a => cases hfaults
  | faulty es => exact h faults (by rw [← Reading.faulty.inj hfaults])

theorem append_faults {es fs : List Fault} (hes : es ≠ [] ∧ ∀ f ∈ es, IsMismatch p f)
    (hfs : ∀ f ∈ fs, IsMismatch p f) : es ++ fs ≠ [] ∧ ∀ f ∈ es ++ fs, IsMismatch p f :=
  ⟨fun hnil => hes.1 (List.append_eq_nil_iff.mp hnil).1,
    List.forall_mem_append.mpr ⟨hes.2, hfs⟩⟩

/-- The faults of both sides are told, so it is enough that each side blames what it may. -/
theorem ap {f : Reading (α → β)} {a : Reading α} (hf : f.Blames p) (ha : a.Blames p) :
    (f.ap a).Blames p := by
  intro faults hfaults
  cases f with
  | ok g =>
    cases a with
    | ok x => cases hfaults
    | faulty es => exact ha faults (by rw [← Reading.faulty.inj hfaults])
  | faulty es =>
    cases a with
    | ok x => exact hf faults (by rw [← Reading.faulty.inj hfaults])
    | faulty fs =>
      obtain rfl := Reading.faulty.inj hfaults
      exact append_faults (hf es rfl) (ha fs rfl).2

theorem each {read : Nat → α → Reading β} {as : List α}
    (h : ∀ i, ∀ a ∈ as, (read i a).Blames p) (i : Nat) : (Reading.each read i as).Blames p := by
  induction as generalizing i with
  | nil => exact .ok []
  | cons a as ih =>
    have hrest := ih (fun i b hb => h i b (List.mem_cons_of_mem a hb)) (i + 1)
    exact ((Blames.ok _).ap (h i a List.mem_cons_self)).ap hrest

theorem firstOf {r : Reading α} {rs : List (Reading α)} (h : ∀ x ∈ r :: rs, x.Blames p) :
    (Reading.firstOf (r :: rs)).Blames p := by
  induction rs generalizing r with
  | nil =>
    intro faults hfaults
    cases r with
    | ok a => cases hfaults
    | faulty es =>
      obtain rfl := Reading.faulty.inj hfaults
      exact append_faults (h _ List.mem_cons_self es rfl) nofun
  | cons s rs ih =>
    have hrest := ih fun x hx => h x (List.mem_cons_of_mem r hx)
    intro faults hfaults
    cases r with
    | ok a => cases hfaults
    | faulty es =>
      rw [Reading.firstOf] at hfaults
      cases hfirst : Reading.firstOf (s :: rs) with
      | ok a =>
        rw [hfirst] at hfaults
        cases hfaults
      | faulty fs =>
        rw [hfirst] at hfaults
        obtain rfl := Reading.faulty.inj hfaults
        exact append_faults (h _ List.mem_cons_self es rfl) (hrest fs hfirst).2

end Blames

theorem blames_text {v : Value} (h : p v) : (text path v).Blames p := by
  unfold text
  split
  · exact .ok _
  · split
    · exact .ok _
    · exact .fault nofun h
  · exact .fault nofun h

theorem blames_optionalText {o : Option Value} (h : ∀ v, o = some v → p v) :
    (optionalText path o).Blames p := by
  unfold optionalText
  split
  · exact .ok _
  · exact .ok _
  · exact (blames_text (h _ rfl)).map some

theorem blames_requiredText {holder : Value} {o : Option Value} (hholder : p holder)
    (h : ∀ v, o = some v → p v) : (requiredText path holder o).Blames p := by
  cases o with
  | none => exact .fault nofun hholder
  | some v => exact blames_text (h v rfl)

theorem blames_texts {v : Value} (h : ∀ w, w.IsPart v → p w) : (texts path v).Blames p := by
  unfold texts
  split
  · rename_i vs hvs
    exact .each (fun _ w hw => blames_text (h w (Value.isPart_of_items? hvs w hw))) 0
  · exact .fault nofun (h v (.self v))

theorem blames_fields {o : Option Value} (h : ∀ v, o = some v → ∀ w, w.IsPart v → p w) :
    (fields path o).Blames p := by
  unfold fields
  split
  · exact .ok _
  · exact .ok _
  · rename_i es
    refine (Blames.each (fun _ e he => ?_) 0).map _
    exact (blames_text (h _ rfl e.1 (.key he (.self e.1)))).map _
  · exact .fault nofun (h _ rfl _ (.self _))

end Reading

namespace Request

open Reading

variable {p : Value → Prop} {path : List PathStep} {v : Value} {o : Option Value}

theorem blames_readJoin (h : ∀ w, w.IsPart v → p w) : (readJoin path v).Blames p := by
  cases v with
  | map es =>
    have hself := h _ (.self _)
    have hget {name : String} : ∀ w, Value.get? name es = some w → p w :=
      fun w hw => h w (Value.isPart_of_get? hw)
    exact ((((Blames.ok _).ap (blames_optionalText hget)).ap (blames_requiredText hself hget)).ap
      (blames_optionalText hget)).ap (blames_requiredText hself hget)
  | _ => exact .fault nofun (h _ (.self _))

theorem blames_readJoins (h : ∀ v, o = some v → ∀ w, w.IsPart v → p w) :
    (readJoins path o).Blames p := by
  unfold readJoins
  split
  · exact .ok _
  · exact .ok _
  · rename_i v _
    have hv := h v rfl
    split
    · rename_i vs hvs
      refine .each (fun _ w hw => blames_readJoin fun u hu => ?_) 0
      exact hv u (hu.trans (Value.isPart_of_items? hvs w hw))
    · exact .fault nofun (hv v (.self v))

theorem blames_readSelect (h : ∀ v, o = some v → ∀ w, w.IsPart v → p w) :
    (readSelect path o).Blames p := by
  unfold readSelect
  split
  · exact .ok _
  · split
    · exact blames_texts (h _ rfl)
    · exact .ok _

theorem blames_readOrderColumn (h : ∀ w, w.IsPart v → p w) :
    (readOrderColumn path v).Blames p := by
  cases v with
  | map es =>
    have hget {name : String} : ∀ w, Value.get? name es = some w → p w :=
      fun w hw => h w (Value.isPart_of_get? hw)
    exact ((Blames.ok _).ap (blames_optionalText hget)).ap (blames_optionalText hget)
  | _ => exact .fault nofun (h _ (.self _))

theorem blames_readOrderBy (h : ∀ v, o = some v → ∀ w, w.IsPart v → p w) :
    (readOrderBy path o).Blames p := by
  unfold readOrderBy
  split
  all_goals try exact .ok _
  rename_i v _ _ _
  have hv := h v rfl
  refine (Blames.firstOf ?_).map some
  simp only [List.forall_mem_cons]
  refine ⟨?_, ?_, ?_, nofun⟩
  · exact (blames_text (hv v (.self v))).map _
  · exact (blames_texts hv).map _
  · exact blames_readOrderColumn hv

theorem blames_readKeys {es : List (Value × Value)} (h : ∀ e ∈ es, p e.1) :
    (readKeys es).Blames p := by
  refine .each (fun _ e he => ?_) 0
  split
  · exact .ok _
  · exact .fault nofun (h e he)

/-- A value that is no request is told with at least one fault, and every fault is a mismatch that
shows the part of the value that is wrong. -/
theorem blames_read (v : Value) : (read v).Blames (Value.IsPart · v) := by
  cases v with
  | map es =>
    have hpart {o : Option Value} (ho : ∀ w, o = some w → w.IsPart (.map es)) :
        ∀ w, o = some w → ∀ u : Value, u.IsPart w → u.IsPart (.map es) :=
      fun w hw u hu => hu.trans (ho w hw)
    have hget (name : String) : ∀ w, Value.get? name es = some w → w.IsPart (.map es) :=
      fun w hw => Value.isPart_of_get? hw
    have horder : ∀ w, (either "orderBy" "order_by" es).2 = some w → w.IsPart (.map es) := by
      intro w hw
      unfold either at hw
      split at hw
      · rename_i u hu
        exact hget _ _ (hu.trans hw)
      · exact hget _ _ hw
    refine ((((((((((Blames.ok _).ap ?_).ap ?_).ap ?_).ap ?_).ap ?_).ap ?_).ap ?_).ap ?_).ap ?_).ap ?_
    · exact blames_optionalText (hget _)
    · exact blames_optionalText (hget _)
    · exact blames_fields (hpart (hget _))
    · exact blames_fields (hpart (hget _))
    · exact blames_fields (hpart (hget _))
    · exact blames_readJoins (hpart (hget _))
    · exact blames_readSelect (hpart (hget _))
    · exact blames_readOrderBy (hpart horder)
    · exact .ok _
    · exact blames_readKeys fun e he => .key he (.self e.1)
  | _ => exact .fault nofun (.self _)

end Request

end RequestSql
