import Mathlib.Data.List.DropRight
import Mathlib.Data.List.Infix
import RequestSql.Dialect.Basic

/-!
# Replacing, and undoing a doubling

`Replaced` says what replacing comes to without a scan: as long as the old text is found, its first
occurrence gives way, and what stands behind it is treated likewise. Where every occurrence of a text
was doubled, replacing the doubled text by the single one gives back what there was, also if
occurrences can overlap: an occurrence of the doubled text that began earlier would begin with an
earlier occurrence of the single one. So an identifier is read back under every dialect.
-/

namespace RequestSql.Text

variable {old new q cs out before behind : List Char}

/-- No occurrence of the text begins before the one behind `before`. -/
def IsFirst (q before behind : List Char) : Prop :=
  ∀ before' behind', before' ++ q ++ behind' = before ++ q ++ behind → before.length ≤ before'.length

/-- What a text becomes if occurrences of `old` give way to `new`, each time the first one in what is
left. -/
inductive Replaced (old new : List Char) : List Char → List Char → Prop
  | absent {cs : List Char} (h : ¬ old <:+: cs) : Replaced old new cs cs
  | first {before behind out : List Char} (h : IsFirst old before behind)
      (hbehind : Replaced old new behind out) :
      Replaced old new (before ++ old ++ behind) (before ++ new ++ out)

theorem isFirst_nil (q behind : List Char) : IsFirst q [] behind := fun _ _ _ => Nat.zero_le _

theorem IsFirst.cons {c : Char} (h : IsFirst q before behind)
    (hc : ¬ q <+: c :: (before ++ q ++ behind)) : IsFirst q (c :: before) behind := by
  intro before' behind' heq
  cases before' with
  | nil => exact absurd ⟨behind', heq⟩ hc
  | cons c' before' => exact Nat.succ_le_succ (h before' behind' (List.cons.inj heq).2)

theorem IsFirst.not_isPrefix {c : Char} (h : IsFirst q (c :: before) behind) :
    ¬ q <+: c :: (before ++ q ++ behind) := by
  rintro ⟨behind', heq⟩
  exact absurd (h [] behind' heq) (Nat.not_succ_le_zero _)

theorem IsFirst.of_cons {c : Char} (h : IsFirst q (c :: before) behind) : IsFirst q before behind :=
  fun before' behind' heq =>
    Nat.le_of_succ_le_succ (h (c :: before') behind' (congrArg (c :: ·) heq))

/-- An occurrence at the start gives way as a whole. -/
theorem replaceFrom_append (hold : old ≠ []) :
    replaceFrom old new 0 (old ++ behind) = new ++ replaceFrom old new 0 behind := by
  cases old with
  | nil => exact absurd rfl hold
  | cons c old =>
    have hstart : (c :: old).isPrefixOf (c :: (old ++ behind)) = true := by
      rw [List.isPrefixOf_iff_prefix]
      exact List.prefix_append (c :: old) behind
    rw [List.cons_append, replaceFrom, if_pos hstart, replaceFrom_skip, List.length_cons,
      Nat.add_sub_cancel, List.drop_left]

theorem replaceFrom_cons {c : Char} (h : ¬ old <+: c :: cs) :
    replaceFrom old new 0 (c :: cs) = c :: replaceFrom old new 0 cs := by
  rw [replaceFrom, if_neg (by rwa [List.isPrefixOf_iff_prefix])]

theorem replaceFrom_absent (h : ¬ old <:+: cs) : replaceFrom old new 0 cs = cs := by
  induction cs with
  | nil => rfl
  | cons c cs ih =>
    have hstart : ¬ old <+: c :: cs := fun hprefixed => h hprefixed.isInfix
    have hbehind : ¬ old <:+: cs := fun hfound => h (hfound.trans (List.infix_cons List.infix_rfl))
    rw [replaceFrom_cons hstart, ih hbehind]

theorem replaceFrom_first (hold : old ≠ []) (h : IsFirst old before behind) :
    replaceFrom old new 0 (before ++ old ++ behind) =
      before ++ new ++ replaceFrom old new 0 behind := by
  induction before with
  | nil => exact replaceFrom_append hold
  | cons c before ih =>
    have hstep : replaceFrom old new 0 (c :: (before ++ old ++ behind)) = _ :=
      replaceFrom_cons h.not_isPrefix
    rw [ih h.of_cons] at hstep
    exact hstep

theorem Replaced.cons {c : Char} (h : Replaced old new cs out) (hc : ¬ old <+: c :: cs) :
    Replaced old new (c :: cs) (c :: out) := by
  cases h with
  | absent h =>
    refine .absent fun hfound => ?_
    rcases List.infix_cons_iff.mp hfound with hstart | hfound
    · exact hc hstart
    · exact h hfound
  | first h hbehind => exact .first (h.cons hc) hbehind

theorem replaced_replaceFrom (hold : old ≠ []) (cs : List Char) :
    Replaced old new cs (replaceFrom old new 0 cs) := by
  by_cases hstart : old <+: cs
  · obtain ⟨behind, hcs⟩ := hstart
    rw [← hcs, replaceFrom_append hold]
    have hfirst := Replaced.first (isFirst_nil old behind) (replaced_replaceFrom hold behind)
    exact hfirst
  · cases cs with
    | nil => exact .absent fun hfound => hold (List.infix_nil.mp hfound)
    | cons c cs =>
      rw [replaceFrom_cons hstart]
      exact (replaced_replaceFrom hold cs).cons hstart
termination_by cs.length
decreasing_by
  · have hlen := List.length_pos_iff.mpr hold
    rw [← hcs, List.length_append]
    omega
  · exact Nat.lt_succ_self _

/-- The scan replaces one first occurrence after the other, and nothing else does. -/
theorem replaceAll_eq_iff (hold : old ≠ []) : replaceAll old new cs = out ↔ Replaced old new cs out := by
  rw [replaceAll, if_neg hold]
  constructor
  · rintro rfl
    exact replaced_replaceFrom hold cs
  · intro h
    induction h with
    | absent h => exact replaceFrom_absent h
    | first h _ ih => rw [replaceFrom_first hold h, ih]

/-- An occurrence of the doubled text begins with one of the single text. -/
theorem IsFirst.doubled (h : IsFirst q before behind) (out : List Char) :
    IsFirst (q ++ q) before out := by
  intro before' behind' heq
  by_contra hlt
  -- the occurrence ends within `before ++ q`, which stands in the text before the doubling too
  have hwhole : before ++ q <+: before ++ (q ++ q) ++ out := ⟨q ++ out, by simp⟩
  have hearly : before' ++ q <+: before ++ (q ++ q) ++ out := by
    rw [← heq]
    exact ⟨q ++ behind', by simp⟩
  obtain ⟨rest, hrest⟩ := List.prefix_of_prefix_length_le hearly hwhole (by
    rw [List.length_append, List.length_append]
    omega)
  refine hlt (h before' (rest ++ behind) ?_)
  rw [← hrest, List.append_assoc _ rest]

theorem Replaced.undoubled (h : Replaced q (q ++ q) cs out) : Replaced (q ++ q) q out cs := by
  induction h with
  | absent h => exact .absent fun hfound => h ((List.prefix_append q q).isInfix.trans hfound)
  | first h _ ih => exact .first (h.doubled _) ih

/-- Writing every doubled text once undoes the doubling. -/
theorem replaceAll_doubled (q cs : List Char) : replaceAll (q ++ q) q (doubled q cs) = cs := by
  by_cases hq : q = []
  · subst hq
    rw [doubled_by_empty]
    rfl
  · have hqq : q ++ q ≠ [] := fun hnil => hq (List.append_eq_nil_iff.mp hnil).1
    exact (replaceAll_eq_iff hqq).mpr ((replaceAll_eq_iff hq).mp rfl).undoubled

end RequestSql.Text

namespace RequestSql.Dialect

/-- The text between the quotes, in which every two quotes in a row are written once. -/
def unquoted (d : Dialect) (s : String) : String :=
  let q := d.quote.toList
  String.ofList (Text.replaceAll (q ++ q) q ((s.toList.drop q.length).rdrop q.length))

/-- The name between the quotes, in which first occurrences of the quote are doubled one after the
other. -/
theorem quoted_identifier (d : Dialect) (name : String) :
    ∃ body, (d.identifier name).toList = d.quote.toList ++ body ++ d.quote.toList ∧
      (d.quote ≠ "" →
        Text.Replaced d.quote.toList (d.quote.toList ++ d.quote.toList) name.toList body) := by
  refine ⟨_, d.toList_identifier name, fun hquote => ?_⟩
  exact (Text.replaceAll_eq_iff fun hnil => hquote (String.toList_eq_nil_iff.mp hnil)).mp rfl

theorem unquoted_eq {d : Dialect} {s : String} {body : List Char}
    (h : s.toList = d.quote.toList ++ body ++ d.quote.toList) : d.unquoted s =
      String.ofList (Text.replaceAll (d.quote.toList ++ d.quote.toList) d.quote.toList body) := by
  simp only [unquoted, h, List.append_assoc, List.drop_left, List.rdrop_append_length]

/-- An identifier stands between two quotes, its name comes back from between them whatever the quote
of the dialect is, and no two names have one identifier. -/
theorem identifier_read_back (d : Dialect) :
    (∀ name, ∃ body, (d.identifier name).toList = d.quote.toList ++ body ++ d.quote.toList ∧
      (d.quote ≠ "" →
        Text.Replaced d.quote.toList (d.quote.toList ++ d.quote.toList) name.toList body ∧
        Text.Replaced (d.quote.toList ++ d.quote.toList) d.quote.toList body name.toList) ∧
      d.unquoted (d.identifier name) = name) ∧
    Function.Injective d.identifier := by
  have hname (name : String) : d.unquoted (d.identifier name) = name := by
    rw [unquoted_eq (d.toList_identifier name), Text.replaceAll_doubled, String.ofList_toList]
  refine ⟨fun name => ?_, fun name other heq => ?_⟩
  · obtain ⟨body, hbody, hreplaced⟩ := d.quoted_identifier name
    exact ⟨body, hbody, fun hquote => ⟨hreplaced hquote, (hreplaced hquote).undoubled⟩, hname name⟩
  · rw [← hname name, heq, hname other]

/-- A quote that overlaps with itself, doubled in a name that holds it twice. -/
example : ∃ d : Dialect, d = { name := "own", quote := "aba" } ∧
    d.identifier "ababa" = "abaabaababaaba" ∧ d.unquoted "abaabaababaaba" = "ababa" :=
  ⟨_, rfl, by decide +kernel⟩

end RequestSql.Dialect
