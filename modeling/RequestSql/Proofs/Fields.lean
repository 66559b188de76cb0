import RequestSql.Fields

/-!
# Names of fields

What the operations on fields do to the set of names and to what the names find, and the entries of
fields that are built, merged or shortened. Merging keeps the places of the first fields and takes
the values of the second.
-/

namespace RequestSql.Fields

variable {α β : Type}

theorem mem_keys_insert {fs : Fields α} {name key : String} {v : α} :
    key ∈ (fs.insert name v).keys ↔ key ∈ fs.keys ∨ key = name := by
  rw [keys, insert, keys_putEntry]
  by_cases h : name ∈ fs.entries.map Prod.fst
  · rw [if_pos h]
    constructor
    · exact Or.inl
    · rintro (hkey | rfl)
      · exact hkey
      · exact h
  · rw [if_neg h, List.mem_append, List.mem_singleton]
    rfl

theorem mem_keys_append {fs : Fields α} {es : List (String × α)} {key : String} :
    key ∈ (fs.append es).keys ↔ key ∈ fs.keys ∨ key ∈ es.map Prod.fst := by
  induction es generalizing fs with
  | nil => simp [append]
  | cons e es ih =>
    have hstep : fs.append (e :: es) = (fs.insert e.1 e.2).append es := rfl
    rw [hstep, ih, mem_keys_insert, List.map_cons, List.mem_cons, or_assoc]

theorem mem_keys_merge {a b : Fields α} {key : String} :
    key ∈ (a.merge b).keys ↔ key ∈ a.keys ∨ key ∈ b.keys :=
  mem_keys_append

theorem mem_keys_erase {fs : Fields α} {name key : String} :
    key ∈ (fs.erase name).keys ↔ key ∈ fs.keys ∧ key ≠ name := by
  simp only [keys, erase, List.mem_map, List.mem_filter, decide_eq_true_eq]
  constructor
  · rintro ⟨e, ⟨he, hname⟩, rfl⟩
    exact ⟨⟨e, he, rfl⟩, hname⟩
  · rintro ⟨⟨e, he, rfl⟩, hname⟩
    exact ⟨e, ⟨he, hname⟩, rfl⟩

theorem mem_keys_foldl_erase {names : List String} {fs : Fields α} {key : String} :
    key ∈ (names.foldl erase fs).keys ↔ key ∈ fs.keys ∧ key ∉ names := by
  induction names generalizing fs with
  | nil => simp
  | cons name names ih =>
    rw [List.foldl_cons, ih, mem_keys_erase, List.mem_cons, not_or, and_assoc]

theorem mem_keys_of_get? {fs : Fields α} {name : String} {v : α} (h : fs.get? name = some v) :
    name ∈ fs.keys := by
  obtain ⟨before, after, he, -⟩ := List.lookup_eq_some_iff.mp h
  rw [keys, he]
  simp

theorem lookup_cons_eq (e : String × α) (es : List (String × α)) (name : String) :
    (e :: es).lookup name = if e.1 = name then some e.2 else es.lookup name := by
  rw [List.lookup_cons]
  by_cases h : e.1 = name
  · simp [h]
  · rw [beq_eq_false_iff_ne.mpr (Ne.symm h), if_neg h]

theorem lookup_putEntry (key : String) (v : α) (es : List (String × α)) (name : String) :
    (putEntry key v es).lookup name = if key = name then some v else es.lookup name := by
  induction es with
  | nil => exact lookup_cons_eq (key, v) [] name
  | cons e es ih =>
    unfold putEntry
    split
    · rename_i hsame
      rw [lookup_cons_eq, lookup_cons_eq, hsame]
      split <;> rfl
    · rename_i hother
      rw [lookup_cons_eq, lookup_cons_eq, ih]
      by_cases he : e.1 = name
      · have hkey : key ≠ name := fun hkey => hother (he.trans hkey.symm)
        rw [if_pos he, if_neg hkey, if_pos he]
      · simp only [if_neg he]

theorem get?_insert (fs : Fields α) (key : String) (v : α) (name : String) :
    (fs.insert key v).get? name = if key = name then some v else fs.get? name :=
  lookup_putEntry key v fs.entries name

theorem lookup_of_mem {name : String} {v : α} {es : List (String × α)}
    (hnodup : (es.map Prod.fst).Nodup) (h : (name, v) ∈ es) : es.lookup name = some v := by
  induction es with
  | nil => exact absurd h List.not_mem_nil
  | cons e es ih =>
    rw [List.map_cons, List.nodup_cons] at hnodup
    rw [lookup_cons_eq]
    rcases List.mem_cons.mp h with rfl | h
    · exact if_pos rfl
    · have he : e.1 ≠ name := fun he => hnodup.1 (List.mem_map.mpr ⟨_, h, he.symm⟩)
      rw [if_neg he, ih hnodup.2 h]

theorem get?_eq_some_iff {fs : Fields α} {name : String} {v : α} :
    fs.get? name = some v ↔ (name, v) ∈ fs.entries := by
  constructor
  · intro h
    obtain ⟨before, after, he, -⟩ := List.lookup_eq_some_iff.mp h
    simp [he]
  · exact lookup_of_mem fs.nodup

theorem mem_keys_iff {fs : Fields α} {name : String} :
    name ∈ fs.keys ↔ ∃ v, fs.get? name = some v := by
  constructor
  · intro h
    obtain ⟨e, he, rfl⟩ := List.mem_map.mp h
    exact ⟨e.2, get?_eq_some_iff.mpr he⟩
  · rintro ⟨v, h⟩
    exact mem_keys_of_get? h

theorem putEntry_of_not_mem {name : String} {v : α} {es : List (String × α)}
    (h : name ∉ es.map Prod.fst) : putEntry name v es = es ++ [(name, v)] := by
  induction es with
  | nil => rfl
  | cons e es ih =>
    rw [List.map_cons, List.mem_cons, not_or] at h
    rw [putEntry, if_neg (Ne.symm h.1), ih h.2, List.cons_append]

theorem entries_append {fs : Fields α} {es : List (String × α)}
    (h : ((fs.entries ++ es).map Prod.fst).Nodup) : (fs.append es).entries = fs.entries ++ es := by
  induction es generalizing fs with
  | nil => exact (List.append_nil _).symm
  | cons e es ih =>
    have hfresh : e.1 ∉ fs.entries.map Prod.fst := by
      intro hmem
      rw [List.map_append, List.nodup_append] at h
      exact h.2.2 e.1 hmem e.1 (by simp) rfl
    have hinsert : (fs.insert e.1 e.2).entries = fs.entries ++ [e] := putEntry_of_not_mem hfresh
    have hstep : fs.append (e :: es) = (fs.insert e.1 e.2).append es := rfl
    have happend : fs.entries ++ [e] ++ es = fs.entries ++ e :: es := by simp
    rw [hstep, ih (by rwa [hinsert, happend]), hinsert, happend]

theorem entries_ofList {es : List (String × α)} (h : (es.map Prod.fst).Nodup) :
    (ofList es).entries = es := by
  have hempty : ((empty : Fields α).entries ++ es).map Prod.fst = es.map Prod.fst := rfl
  exact entries_append (hempty ▸ h)

theorem putEntry_of_mem {name : String} {v : α} {es : List (String × α)}
    (h : name ∈ es.map Prod.fst) (hnodup : (es.map Prod.fst).Nodup) :
    putEntry name v es = es.map fun e => if e.1 = name then (name, v) else e := by
  induction es with
  | nil => exact absurd h List.not_mem_nil
  | cons e es ih =>
    rw [List.map_cons, List.nodup_cons] at hnodup
    rw [List.map_cons]
    by_cases he : e.1 = name
    · -- the name does not come again, so nothing behind it changes
      have hrest : es.map (fun e => if e.1 = name then (name, v) else e) = es := by
        refine (List.map_congr_left fun x hx => if_neg fun hname => ?_).trans (List.map_id es)
        exact hnodup.1 (List.mem_map.mpr ⟨x, hx, hname.trans he.symm⟩)
      rw [putEntry, if_pos he, if_pos he, hrest]
    · have hmem : name ∈ es.map Prod.fst :=
        (List.mem_cons.mp h).resolve_left fun hname => he hname.symm
      rw [putEntry, if_neg he, if_neg he, ih hmem hnodup.2]

theorem mem_of_mem_putEntry {name : String} {v : α} {es : List (String × α)} {e : String × α}
    (h : e ∈ putEntry name v es) : e = (name, v) ∨ e ∈ es := by
  fun_induction putEntry name v es with
  | case1 => exact .inl (List.mem_singleton.mp h)
  | case2 e' es hname =>
    rcases List.mem_cons.mp h with rfl | h
    · exact .inl rfl
    · exact .inr (List.mem_cons_of_mem e' h)
  | case3 e' es hname ih =>
    rcases List.mem_cons.mp h with rfl | h
    · exact .inr List.mem_cons_self
    · exact (ih h).imp id (List.mem_cons_of_mem e')

theorem lookup_eq_none {name : String} {es : List (String × α)} (h : name ∉ es.map Prod.fst) :
    es.lookup name = none := by
  refine List.lookup_eq_none_iff.mpr fun e he => ?_
  exact bne_iff_ne.mpr fun hname => h (List.mem_map.mpr ⟨e, he, hname.symm⟩)

/-- Entries with different names overwrite the ones that are there, each in its place, and the
others come behind in their order. The induction writes the first of them. -/
theorem entries_append_nodup {fs : Fields α} {es : List (String × α)}
    (h : (es.map Prod.fst).Nodup) : (fs.append es).entries =
      fs.entries.map (fun e => (e.1, (es.lookup e.1).getD e.2)) ++
        es.filter fun e => e.1 ∉ fs.keys := by
  induction es generalizing fs with
  | nil => simp [append]
  | cons e es ih =>
    rw [List.map_cons, List.nodup_cons] at h
    have hstep : fs.append (e :: es) = (fs.insert e.1 e.2).append es := rfl
    have hlast : es.lookup e.1 = none := lookup_eq_none h.1
    rw [hstep, ih h.2]
    by_cases hmem : e.1 ∈ fs.keys
    · have hentries : (fs.insert e.1 e.2).entries =
          fs.entries.map fun x => if x.1 = e.1 then (e.1, e.2) else x :=
        putEntry_of_mem hmem fs.nodup
      have hkeys : ∀ key, key ∈ (fs.insert e.1 e.2).keys ↔ key ∈ fs.keys := by
        intro key
        rw [mem_keys_insert]
        exact or_iff_left_of_imp fun hkey => hkey ▸ hmem
      rw [hentries, List.map_map, List.filter_cons_of_neg (by simpa using hmem)]
      congr 1
      · refine List.map_congr_left fun x _ => ?_
        rw [Function.comp_apply, List.lookup_cons]
        by_cases hx : x.1 = e.1
        · simp [hx, hlast]
        · rw [if_neg hx, beq_eq_false_iff_ne.mpr hx]
      · simp only [hkeys]
    · have hentries : (fs.insert e.1 e.2).entries = fs.entries ++ [e] := putEntry_of_not_mem hmem
      rw [hentries, List.map_append, List.map_singleton, hlast, Option.getD_none,
        List.filter_cons_of_pos (by simpa using hmem), List.append_assoc, List.singleton_append]
      congr 1
      · refine List.map_congr_left fun x hx => ?_
        have hne : x.1 ≠ e.1 := fun hname => hmem (List.mem_map.mpr ⟨x, hx, hname⟩)
        rw [List.lookup_cons, beq_eq_false_iff_ne.mpr hne]
      · refine congrArg (e :: ·) (List.filter_congr fun x hx => ?_)
        have hne : x.1 ≠ e.1 := fun hname => h.1 (List.mem_map.mpr ⟨x, hx, hname⟩)
        simp [mem_keys_insert, hne]

theorem entries_merge (a b : Fields α) : (a.merge b).entries =
    a.entries.map (fun e => (e.1, (b.get? e.1).getD e.2)) ++
      b.entries.filter fun e => e.1 ∉ a.keys :=
  entries_append_nodup b.nodup

theorem entries_foldl_erase {names : List String} {fs : Fields α} :
    (names.foldl erase fs).entries = fs.entries.filter fun e => e.1 ∉ names := by
  induction names generalizing fs with
  | nil => exact (List.filter_eq_self.mpr fun _ _ => by simp).symm
  | cons name names ih =>
    rw [List.foldl_cons, ih, erase, List.filter_filter]
    refine List.filter_congr fun e _ => ?_
    simp [Bool.and_comm]

theorem mem_entries_append {fs : Fields α} {es : List (String × α)} {e : String × α}
    (h : e ∈ (fs.append es).entries) : e ∈ fs.entries ∨ e ∈ es := by
  induction es generalizing fs with
  | nil => exact .inl h
  | cons x xs ih =>
    have hstep : fs.append (x :: xs) = (fs.insert x.1 x.2).append xs := rfl
    rw [hstep] at h
    rcases ih h with h | h
    · rcases mem_of_mem_putEntry h with rfl | h
      · exact .inr List.mem_cons_self
      · exact .inl h
    · exact .inr (List.mem_cons_of_mem x h)

theorem mem_entries_merge {a b : Fields α} {e : String × α} (h : e ∈ (a.merge b).entries) :
    e ∈ a.entries ∨ e ∈ b.entries :=
  mem_entries_append h

end RequestSql.Fields
