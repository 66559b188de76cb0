import Mathlib.Data.List.Basic

/-!
# Readers

A reader takes a piece off the front of a text and hands on what remains. It never looks back, and
a choice is made by the word that comes next, so nothing is read twice. `Reads` says that a written
piece comes back exactly, whatever admitted text follows it. The lemmas put readers together the way
the readers themselves are put together.
-/

namespace RequestSql

/-- Takes a piece off the front of a text. -/
abbrev Reader := StateT (List Char) Option

namespace Reader

variable {α β γ : Type}

def word (w : String) : Reader Unit := fun cs =>
  (w.toList.isPrefixOf? cs).map fun rest => ((), rest)

/-- Goes on in one way behind a word, and in another where the word is not next. -/
def ifNext (w : String) (present absent : Reader α) : Reader α := fun cs =>
  match w.toList.isPrefixOf? cs with
  | some rest => present rest
  | none => absent cs

/-- At least one item, with a separator between them; the number bounds how many. -/
def itemsUpTo (separator : String) (item : Reader α) : Nat → Reader (List α)
  | 0 => failure
  | n + 1 => do
    let a ← item
    ifNext separator ((a :: ·) <$> itemsUpTo separator item n) (pure [a])

/-- At least one item, with a separator between them. -/
def items (separator : String) (item : Reader α) : Reader (List α) := fun cs =>
  itemsUpTo separator item (cs.length + 1) cs

def whole (r : Reader α) (s : String) : Option α :=
  match r s.toList with
  | some (a, []) => some a
  | _ => none

/-- The reader takes exactly the written piece, before every admitted continuation. -/
def Reads (r : Reader α) (written : List Char) (a : α) (next : List Char → Prop) : Prop :=
  ∀ rest, next rest → r (written ++ rest) = some (a, rest)

theorem isPrefixOf?_append (w rest : List Char) : w.isPrefixOf? (w ++ rest) = some rest :=
  List.isPrefixOf?_eq_some_iff_append_eq.mpr rfl

theorem isPrefixOf?_eq_none {w cs : List Char} (h : ¬ w <+: cs) : w.isPrefixOf? cs = none := by
  cases hw : w.isPrefixOf? cs with
  | none => rfl
  | some rest => exact absurd ⟨rest, List.isPrefixOf?_eq_some_iff_append_eq.mp hw⟩ h

/-- Two words that differ before either ends are told apart, whatever follows. -/
theorem not_isPrefix_append {w w' : List Char} (h : ¬ w <+: w') (h' : ¬ w' <+: w)
    (rest : List Char) : ¬ w <+: w' ++ rest := by
  intro hp
  rcases List.prefix_or_prefix_of_prefix hp (List.prefix_append w' rest) with h₁ | h₁
  · exact h h₁
  · exact h' h₁

namespace Reads

variable {next after : List Char → Prop} {written text : List Char} {a : α} {b : β}
  {r : Reader α}

theorem pure (a : α) : Reads (pure a) [] a next := fun _ _ => rfl

theorem bind {k : α → Reader β} (h : Reads r written a next) (hk : Reads (k a) text b after)
    (hnext : ∀ rest, after rest → next (text ++ rest)) :
    Reads (r >>= k) (written ++ text) b after := by
  intro rest hrest
  have hr : r (written ++ (text ++ rest)) = some (a, text ++ rest) := h _ (hnext rest hrest)
  rw [List.append_assoc]
  change (r (written ++ (text ++ rest))).bind (fun p => k p.1 p.2) = _
  rw [hr]
  exact hk rest hrest

theorem map (h : Reads r written a next) (f : α → β) : Reads (f <$> r) written (f a) next := by
  intro rest hrest
  change (r (written ++ rest)).bind (fun p => some (f p.1, p.2)) = _
  rw [h rest hrest]
  rfl

theorem mono (h : Reads r written a next) (hnext : ∀ rest, after rest → next rest) :
    Reads r written a after :=
  fun rest hrest => h rest (hnext rest hrest)

theorem word (w : String) : Reads (Reader.word w) w.toList () next := by
  intro rest _
  rw [Reader.word, isPrefixOf?_append]
  rfl

theorem behind (w : String) (h : Reads r written a next) :
    Reads (do Reader.word w; r) (w.toList ++ written) a next := by
  have hw : Reads (Reader.word w) w.toList () fun _ => True := Reads.word w
  exact hw.bind h fun _ _ => trivial

theorem last (w : String) (a : α) : Reads (do Reader.word w; return a) w.toList a next := by
  have h : Reads (do Reader.word w; return a) (w.toList ++ []) a next := (Reads.pure a).behind w
  rwa [List.append_nil] at h

/-- A piece, the word that ends it, and what comes behind the word. -/
theorem upTo {k : α → Reader β} (h : Reads r written a next) (w : String)
    (hw : ∀ rest, next (w.toList ++ rest)) (hk : Reads (k a) text b after) :
    Reads (do let x ← r; Reader.word w; k x) (written ++ (w.toList ++ text)) b after :=
  h.bind (hk.behind w) fun rest _ => by
    rw [List.append_assoc]
    exact hw _

theorem ifNext_present {absent : Reader α} (w : String) (h : Reads r written a next) :
    Reads (ifNext w r absent) (w.toList ++ written) a next := by
  intro rest hrest
  rw [List.append_assoc]
  unfold ifNext
  rw [isPrefixOf?_append]
  exact h rest hrest

theorem ifNext_absent {present : Reader α} {w : String} (h : Reads r written a next)
    (hw : ∀ rest, next rest → ¬ w.toList <+: written ++ rest) :
    Reads (ifNext w present r) written a next := by
  intro rest hrest
  unfold ifNext
  rw [isPrefixOf?_eq_none (hw rest hrest)]
  exact h rest hrest

theorem ifNext_other {present : Reader α} {w w' : String}
    (h : Reads r (w'.toList ++ written) a next) (hw : ¬ w.toList <+: w'.toList)
    (hw' : ¬ w'.toList <+: w.toList) : Reads (ifNext w present r) (w'.toList ++ written) a next := by
  refine h.ifNext_absent fun rest _ hp => ?_
  rw [List.append_assoc] at hp
  exact not_isPrefix_append hw hw' _ hp

end Reads

theorem reads_itemsUpTo {separator : String} {item : Reader β} {next after : List Char → Prop}
    {write : α → List Char} {value : α → β} {as : List α} {n : Nat}
    (hitem : ∀ a ∈ as, Reads item (write a) (value a) next)
    (hsep : ∀ rest, next (separator.toList ++ rest))
    (hafter : ∀ rest, after rest → next rest ∧ ¬ separator.toList <+: rest)
    (hne : as ≠ []) (hn : as.length ≤ n) :
    Reads (itemsUpTo separator item n) (separator.toList.intercalate (as.map write))
      (as.map value) after := by
  induction as generalizing n with
  | nil => exact absurd rfl hne
  | cons a as ih =>
    obtain ⟨n, rfl⟩ : ∃ m, n = m + 1 := ⟨n - 1, by simp at hn; omega⟩
    have ha := hitem a List.mem_cons_self
    cases as with
    | nil =>
      have hend : Reads (ifNext separator ((value a :: ·) <$> itemsUpTo separator item n)
          (pure [value a])) [] [value a] after :=
        (Reads.pure _).ifNext_absent fun rest hrest => (hafter rest hrest).2
      have h : Reads (itemsUpTo separator item (n + 1)) (write a ++ []) [value a] after :=
        ha.bind hend fun rest hrest => (hafter rest hrest).1
      simpa only [List.map_cons, List.map_nil, List.intercalate_singleton, List.append_nil] using h
    | cons b bs =>
      have hrec := ih (n := n) (fun x hx => hitem x (List.mem_cons_of_mem a hx))
        (List.cons_ne_nil b bs) (by simpa using hn)
      have htail : Reads (ifNext separator ((value a :: ·) <$> itemsUpTo separator item n)
          (pure [value a])) _ _ after := (hrec.map (value a :: ·)).ifNext_present separator
      have h : Reads (itemsUpTo separator item (n + 1)) _ (value a :: _) after :=
        ha.bind htail fun rest _ => by rw [List.append_assoc]; exact hsep _
      rw [List.map_cons, List.map_cons, List.intercalate_cons_cons, List.append_assoc]
      exact h

theorem length_le_intercalate {separator : List Char} (hs : separator ≠ [])
    (texts : List (List Char)) : texts.length ≤ (separator.intercalate texts).length + 1 := by
  induction texts with
  | nil => simp
  | cons t ts ih =>
    cases ts with
    | nil => simp
    | cons u us =>
      have hpos := List.length_pos_iff.mpr hs
      rw [List.intercalate_cons_cons]
      simp only [List.length_cons, List.length_append] at ih ⊢
      omega

/-- Any number of items comes back: the text itself is long enough to bound them. -/
theorem reads_items {separator : String} {item : Reader β} {next after : List Char → Prop}
    {write : α → List Char} {value : α → β} {as : List α} (hs : separator.toList ≠ [])
    (hitem : ∀ a ∈ as, Reads item (write a) (value a) next)
    (hsep : ∀ rest, next (separator.toList ++ rest))
    (hafter : ∀ rest, after rest → next rest ∧ ¬ separator.toList <+: rest) (hne : as ≠ []) :
    Reads (items separator item) (separator.toList.intercalate (as.map write))
      (as.map value) after := by
  intro rest hrest
  refine reads_itemsUpTo hitem hsep hafter hne ?_ rest hrest
  have hlen := length_le_intercalate hs (as.map write)
  rw [List.length_map] at hlen
  rw [List.length_append]
  omega

theorem whole_eq {r : Reader α} {s : String} {a : α} {next : List Char → Prop}
    (h : Reads r s.toList a next) (hnil : next []) : whole r s = some a := by
  have hr := h [] hnil
  rw [List.append_nil] at hr
  rw [whole, hr]

end Reader

end RequestSql
