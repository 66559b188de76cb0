import RequestSql.Dialect.Registry
import RequestSql.Proofs.Reader.Basic
import RequestSql.Proofs.Text.Word

/-!
# Names and literals

The two kinds of text between which the fixed words of a statement stand. A name stands between
quotes, and a quote in it is written twice; a literal is a text between single quotes or a word.
Both come back exactly, whatever characters they hold, as long as no quote and no word character
follows. The reader is told neither the dialect nor the kind of the literal.
-/

namespace RequestSql

/-- A literal as it can be told from its text alone. -/
inductive Literal where
  /-- Between single quotes: the text that the quotes hold. -/
  | text (s : String)
  /-- A number, a truth value or null. -/
  | word (w : String)
  deriving DecidableEq, Repr

def Literal.ofScalar (d : Dialect) : Scalar → Literal
  | .text s => .text s
  | v => .word (d.literal v)

namespace Reader

/-- Reads to the quote that closes. Two quotes in a row stand for one and close nothing. -/
def quotedBody (q : Char) : List Char → Option (List Char × List Char)
  | [] => none
  | [c] => if c = q then some ([], []) else none
  | c :: c' :: cs =>
    if c ≠ q then (quotedBody q (c' :: cs)).map fun p => (c :: p.1, p.2)
    else if c' = q then (quotedBody q cs).map fun p => (q :: p.1, p.2)
    else some ([], c' :: cs)

/-- Reads a name between backticks or between double quotes. -/
def identifier : Reader String
  | [] => none
  | q :: cs =>
    if q = '`' ∨ q = '"' then (quotedBody q cs).map fun p => (String.ofList p.1, p.2) else none

/-- Reads a text between single quotes, or else the longest word. -/
def literal : Reader Literal
  | [] => none
  | c :: cs =>
    if c = '\'' then (quotedBody '\'' cs).map fun p => (.text (String.ofList p.1), p.2)
    else if Text.isWordChar c then
      some (.word (String.ofList (c :: cs.takeWhile Text.isWordChar)), cs.dropWhile Text.isWordChar)
    else none

/-- What may follow a name or a literal: the end, or a character that cannot prolong it. -/
def IsBreak (rest : List Char) : Prop :=
  ∀ c ∈ rest.head?, c ≠ '`' ∧ c ≠ '"' ∧ c ≠ '\'' ∧ Text.isWordChar c = false

theorem isBreak_cons {c : Char} {cs : List Char} : IsBreak (c :: cs) ↔ IsBreak [c] := by
  simp [IsBreak]

instance : (rest : List Char) → Decidable (IsBreak rest)
  | [] => .isTrue nofun
  | c :: _ => decidable_of_iff
    (c ≠ '`' ∧ c ≠ '"' ∧ c ≠ '\'' ∧ Text.isWordChar c = false) (by simp [IsBreak])

/-- The first character of a fixed word decides for the word. -/
theorem isBreak_append {w : List Char} (h : IsBreak w) (hw : w ≠ []) (rest : List Char) :
    IsBreak (w ++ rest) := by
  obtain ⟨c, w, rfl⟩ := List.exists_cons_of_ne_nil hw
  exact isBreak_cons.mpr (isBreak_cons.mp h)

theorem quotedBody_cons_of_ne {q c : Char} (h : c ≠ q) (cs : List Char) :
    quotedBody q (c :: cs) = (quotedBody q cs).map fun p => (c :: p.1, p.2) := by
  cases cs with
  | nil => simp [quotedBody, h]
  | cons c' cs => rw [quotedBody, if_pos h]

theorem quotedBody_pair (q : Char) (cs : List Char) :
    quotedBody q (q :: q :: cs) = (quotedBody q cs).map fun p => (q :: p.1, p.2) := by
  rw [quotedBody, if_neg (fun h => h rfl), if_pos rfl]

theorem quotedBody_close {q : Char} {rest : List Char} (h : rest.head? ≠ some q) :
    quotedBody q (q :: rest) = some ([], rest) := by
  cases rest with
  | nil => rw [quotedBody, if_pos rfl]
  | cons c cs =>
    have hc : c ≠ q := by simpa using h
    rw [quotedBody, if_neg (fun h => h rfl), if_neg hc]

/-- What may follow the last of several items. -/
def EndsItems (separator : String) (rest : List Char) : Prop :=
  IsBreak rest ∧ ¬ separator.toList <+: rest

/-- A fixed word ends a list of items, whatever follows it. -/
theorem endsItems_word {separator w : String} (hb : IsBreak w.toList)
    (h : ¬ separator.toList <+: w.toList) (h' : ¬ w.toList <+: separator.toList)
    (rest : List Char) : EndsItems separator (w.toList ++ rest) := by
  refine ⟨isBreak_append hb ?_ rest, not_isPrefix_append h h' rest⟩
  intro hw
  exact h' (hw ▸ List.nil_prefix)

/-- A doubled text between two quotes is read back. The induction is on the text: a quote in it
gives two equal characters, any other character is passed on. -/
theorem quotedBody_doubled {q : Char} (body : List Char) {rest : List Char}
    (h : rest.head? ≠ some q) :
    quotedBody q (Text.doubled [q] body ++ q :: rest) = some (body, rest) := by
  rw [Text.doubled_singleton]
  induction body with
  | nil => exact quotedBody_close h
  | cons c body ih =>
    rw [List.flatMap_cons, List.append_assoc]
    by_cases hc : c = q
    · subst hc
      rw [if_pos rfl]
      change quotedBody c (c :: c :: (_ ++ c :: rest)) = _
      rw [quotedBody_pair, ih, Option.map_some]
    · rw [if_neg hc, List.singleton_append, quotedBody_cons_of_ne hc, ih, Option.map_some]

/-- The quotes of the dialect are ones that the reader knows, and its truth values are words. -/
structure Readable (d : Dialect) : Prop where
  quote : d.quote.toList = ['`'] ∨ d.quote.toList = ['"']
  boolText (b : Bool) : Text.IsWord (d.boolText b).toList

theorem readable_of_builtin {d : Dialect} (h : d ∈ Registry.builtin.dialects) : Readable d := by
  have hd : d = .mysql ∨ d = .postgres ∨ d = .sqlite := by
    simpa using h
  rcases hd with rfl | rfl | rfl
  · exact ⟨.inl rfl, fun b => by cases b <;> decide⟩
  · exact ⟨.inr rfl, fun b => by cases b <;> decide⟩
  · exact ⟨.inl rfl, fun b => by cases b <;> decide⟩

variable {d : Dialect}

theorem reads_identifier (hd : Readable d) (name : String) :
    Reads identifier (d.identifier name).toList name IsBreak := by
  intro rest hrest
  obtain ⟨q, hq, hmark⟩ : ∃ q, d.quote.toList = [q] ∧ (q = '`' ∨ q = '"') := by
    rcases hd.quote with h | h
    · exact ⟨_, h, .inl rfl⟩
    · exact ⟨_, h, .inr rfl⟩
  have hhead : rest.head? ≠ some q := by
    intro h
    obtain ⟨h₁, h₂, -, -⟩ := hrest q h
    rcases hmark with rfl | rfl
    · exact h₁ rfl
    · exact h₂ rfl
  rw [Dialect.toList_identifier, hq, List.append_assoc, List.append_assoc, List.singleton_append,
    identifier, if_pos hmark]
  change (quotedBody q (Text.doubled [q] name.toList ++ q :: rest)).map _ = _
  rw [quotedBody_doubled _ hhead, Option.map_some, String.ofList_toList]

theorem isWord_number (n : Number) : Text.IsWord n.literal.toList := by
  rw [Number.literal, String.toList_ofList]
  exact n.isWord_literalChars

theorem reads_word {w : String} (hw : Text.IsWord w.toList) :
    Reads literal w.toList (.word w) IsBreak := by
  intro rest hrest
  obtain ⟨c, cs, hcs⟩ := List.exists_cons_of_ne_nil hw.ne_nil
  have hc : Text.isWordChar c = true := hw.all c (by simp [hcs])
  have hquote : c ≠ '\'' := by
    rintro rfl
    exact absurd hc (by decide)
  have hin : ∀ x ∈ cs, Text.isWordChar x = true := fun x hx => hw.all x (by simp [hcs, hx])
  have htake : rest.takeWhile Text.isWordChar = [] := by
    cases rest with
    | nil => rfl
    | cons x xs => exact List.takeWhile_cons_of_neg (by simp [(hrest x rfl).2.2.2])
  have hdrop : rest.dropWhile Text.isWordChar = rest := by
    cases rest with
    | nil => rfl
    | cons x xs => exact List.dropWhile_cons_of_neg (by simp [(hrest x rfl).2.2.2])
  rw [hcs, List.cons_append, literal, if_neg hquote, if_pos hc,
    List.takeWhile_append_of_pos hin, List.dropWhile_append_of_pos hin, htake, hdrop,
    List.append_nil, ← hcs, String.ofList_toList]

/-- The literal of every scalar comes back: a text as what it was, anything else as its word. -/
theorem reads_literal (hd : Readable d) (v : Scalar) :
    Reads literal (d.literal v).toList (.ofScalar d v) IsBreak := by
  cases v with
  | text s =>
    intro rest hrest
    have hhead : rest.head? ≠ some '\'' := fun h => (hrest _ h).2.2.1 rfl
    change literal ((Dialect.stringLiteral s).toList ++ rest) = _
    rw [Dialect.toList_stringLiteral, List.cons_append, List.append_assoc, List.singleton_append,
      literal, if_pos rfl, quotedBody_doubled _ hhead, Option.map_some, String.ofList_toList]
    rfl
  | null => exact reads_word (w := "NULL") (by decide)
  | bool b => exact reads_word (hd.boolText b)
  | number n => exact reads_word (isWord_number n)

theorem reads_list {α β : Type} {separator : String} {item : Reader β} {write : α → String}
    {value : α → β} {as : List α} (hs : IsBreak separator.toList) (hs' : separator.toList ≠ [])
    (hitem : ∀ a ∈ as, Reads item (write a).toList (value a) IsBreak) (hne : as ≠ []) :
    Reads (items separator item) (separator.intercalate (as.map write)).toList (as.map value)
      (EndsItems separator) := by
  rw [String.toList_intercalate, List.map_map]
  exact reads_items hs' hitem (isBreak_append hs hs') (fun _ h => h) hne

end Reader

end RequestSql
