import RequestSql.Lexical
import RequestSql.Proofs.Reader.Lexeme

/-!
# Closed texts

A text is closed when it leaves no string, no quoted name and no parenthesis open and closes no
parenthesis that it did not open. `Closed` reads a quoted part to its end, with two quotes in a row
standing for one. The scanner of the check knows nothing of doubled quotes: it takes them for an end
and a new start. Behind a closed text it is nevertheless where it was before, so closed texts can be
put one behind the other, also where a closing quote meets an opening one.
-/

namespace RequestSql.Lexical

variable {quotes : List Char}

/-- The text closes what is open before it, which is a number of parentheses, and leaves nothing
open itself. -/
inductive Closed (quotes : List Char) : Nat → List Char → Prop
  | nil : Closed quotes 0 []
  | quoted {n : Nat} {q : Char} {cs body rest : List Char} (hq : q = '\'' ∨ q ∈ quotes)
      (hbody : Reader.quotedBody q cs = some (body, rest)) (h : Closed quotes n rest) :
      Closed quotes n (q :: cs)
  | opening {n : Nat} {cs : List Char} (h : Closed quotes (n + 1) cs) : Closed quotes n ('(' :: cs)
  | closing {n : Nat} {cs : List Char} (h : Closed quotes n cs) : Closed quotes (n + 1) (')' :: cs)
  | other {n : Nat} {c : Char} {cs : List Char} (hc : c ∉ '\'' :: '(' :: ')' :: quotes)
      (h : Closed quotes n cs) : Closed quotes n (c :: cs)

/-- Quotes that are neither single ones nor parentheses. -/
def AreQuotes (quotes : List Char) : Prop := ∀ q ∈ quotes, q = '`' ∨ q = '"'

/-- The mode between two quotes. -/
def Mode.within (q : Char) : Mode := if q = '\'' then .inString else .inQuotes q

theorem step_within (quotes : List Char) (q c : Char) (n : Nat) :
    step quotes ⟨.within q, n⟩ c = if c = q then ⟨.plain, n⟩ else ⟨.within q, n⟩ := by
  unfold Mode.within
  by_cases hq : q = '\''
  · subst hq
    rfl
  · rw [if_neg hq]
    rfl

theorem step_quote {q : Char} (hq : q = '\'' ∨ q ∈ quotes) (n : Nat) :
    step quotes ⟨.plain, n⟩ q = ⟨.within q, n⟩ := by
  by_cases hs : q = '\''
  · subst hs
    rfl
  · have hmem := hq.resolve_left hs
    simp only [step, Mode.within, if_neg hs, if_pos hmem]

theorem scan_cons (quotes : List Char) (s : State) (c : Char) (cs : List Char) :
    scan quotes s (c :: cs) = scan quotes (step quotes s c) cs := rfl

/-- Behind the quote that closes, the scanner is where it was before the one that opened. -/
theorem scan_quotedBody {q : Char} (hq : q = '\'' ∨ q ∈ quotes) {cs body rest : List Char} (n : Nat)
    (h : Reader.quotedBody q cs = some (body, rest)) :
    scan quotes ⟨.within q, n⟩ cs = scan quotes ⟨.plain, n⟩ rest := by
  fun_induction Reader.quotedBody q cs generalizing body rest with
  | case1 => cases h
  | case2 =>
    obtain ⟨-, rfl⟩ := Prod.mk.inj (Option.some.inj h)
    rw [scan_cons, step_within, if_pos rfl]
  | case3 => cases h
  | case4 c c' cs hc ih =>
    obtain ⟨p, hp, he⟩ := Option.map_eq_some_iff.mp h
    obtain ⟨-, rfl⟩ := Prod.mk.inj he
    rw [scan_cons, step_within, if_neg hc]
    exact ih hp
  | case5 c cs hc ih =>
    obtain ⟨p, hp, he⟩ := Option.map_eq_some_iff.mp h
    obtain ⟨-, rfl⟩ := Prod.mk.inj he
    -- a doubled quote sends the scanner out and back in
    rw [scan_cons, step_within, if_pos (not_not.mp hc), scan_cons, step_quote hq]
    exact ih hp
  | case6 c c' cs hc hc' =>
    obtain ⟨-, rfl⟩ := Prod.mk.inj (Option.some.inj h)
    rw [scan_cons, step_within, if_pos (not_not.mp hc)]

theorem step_ordinary {c : Char} (hc : c ∉ '\'' :: '(' :: ')' :: quotes) (n : Nat) :
    step quotes ⟨.plain, n⟩ c = ⟨.plain, n⟩ := by
  simp only [List.mem_cons, not_or] at hc
  obtain ⟨hs, ho, hcl, hq⟩ := hc
  simp [step, hs, ho, hcl, hq]

theorem not_mem_of_areQuotes (hquotes : AreQuotes quotes) {c : Char} (h : c ≠ '`' ∧ c ≠ '"') :
    c ∉ quotes := by
  intro hc
  rcases hquotes c hc with rfl | rfl
  · exact h.1 rfl
  · exact h.2 rfl

theorem step_opening (hquotes : AreQuotes quotes) (n : Nat) :
    step quotes ⟨.plain, n⟩ '(' = ⟨.plain, n + 1⟩ := by
  simp [step, not_mem_of_areQuotes hquotes]

theorem step_closing (hquotes : AreQuotes quotes) (n : Nat) :
    step quotes ⟨.plain, n + 1⟩ ')' = ⟨.plain, n⟩ := by
  simp [step, not_mem_of_areQuotes hquotes]

theorem scan_closed (hquotes : AreQuotes quotes) {n : Nat} {cs : List Char} (h : Closed quotes n cs)
    (m : Nat) : scan quotes ⟨.plain, n + m⟩ cs = ⟨.plain, m⟩ := by
  -- by the way the text closes: of what is open, it closes the upper part and never reaches m
  induction h with
  | nil => rw [scan_nil, Nat.zero_add]
  | quoted hq hbody h ih => rw [scan_cons, step_quote hq, scan_quotedBody hq _ hbody, ih]
  | opening h ih => rw [scan_cons, step_opening hquotes, Nat.add_right_comm, ih]
  | closing h ih => rw [scan_cons, Nat.add_right_comm, step_closing hquotes, ih]
  | other hc h ih => rw [scan_cons, step_ordinary hc, ih]

/-- Behind the text the scanner is where it was before. -/
def Neutral (quotes : List Char) (s : String) : Prop :=
  ∀ n, scan quotes ⟨.plain, n⟩ s.toList = ⟨.plain, n⟩

/-- A character that opens and closes nothing, whatever the quotes are. -/
def isOrdinary (c : Char) : Bool := c ∉ ['\'', '`', '"', '(', ')']

theorem isOrdinary_of_isWordChar {c : Char} (h : Text.isWordChar c = true) :
    isOrdinary c = true := by
  refine decide_eq_true fun hc => ?_
  simp only [List.mem_cons, List.not_mem_nil, or_false] at hc
  rcases hc with rfl | rfl | rfl | rfl | rfl
  all_goals exact absurd h (by decide)

theorem isOpen_of_neutral {s : String} (h : Neutral quotes s) : isOpen quotes s.toList = false := by
  have hscan : scan quotes {} s.toList = {} := h 0
  rw [isOpen, hscan]
  rfl

namespace Neutral

theorem of_closed (hquotes : AreQuotes quotes) {s : String} (h : Closed quotes 0 s.toList) :
    Neutral quotes s := by
  intro n
  have hscan := scan_closed hquotes h n
  rwa [Nat.zero_add] at hscan

theorem empty : Neutral quotes "" := fun _ => rfl

theorem append {s t : String} (hs : Neutral quotes s) (ht : Neutral quotes t) :
    Neutral quotes (s ++ t) := by
  intro n
  rw [String.toList_append, scan_append, hs, ht]

theorem of_ordinary (hquotes : AreQuotes quotes) {s : String}
    (h : s.toList.all isOrdinary = true) : Neutral quotes s := by
  intro n
  revert h
  induction s.toList with
  | nil => exact fun _ => rfl
  | cons c cs ih =>
    intro h
    rw [List.all_cons, Bool.and_eq_true] at h
    have hc : c ∉ '\'' :: '(' :: ')' :: quotes := by
      have hc := of_decide_eq_true h.1
      simp only [List.mem_cons, List.not_mem_nil, or_false, not_or] at hc ⊢
      exact ⟨hc.1, hc.2.2.2.1, hc.2.2.2.2, not_mem_of_areQuotes hquotes ⟨hc.2.1, hc.2.2.1⟩⟩
    rw [scan_cons, step_ordinary hc, ih h.2]

theorem parenthesized (hquotes : AreQuotes quotes) {s t : String} (hs : Neutral quotes s)
    (ht : Neutral quotes t) : Neutral quotes (s ++ "(" ++ t ++ ")") := by
  intro n
  have ho : scan quotes ⟨.plain, n⟩ "(".toList = ⟨.plain, n + 1⟩ := step_opening hquotes n
  have hc : scan quotes ⟨.plain, n + 1⟩ ")".toList = ⟨.plain, n⟩ := step_closing hquotes n
  rw [String.toList_append, String.toList_append, String.toList_append, scan_append, scan_append,
    scan_append, hs, ho, ht, hc]

/-- A text between quotes, with the quotes in it doubled. -/
theorem of_doubled (hquotes : AreQuotes quotes) {q : Char} (hq : q = '\'' ∨ q ∈ quotes)
    {s : String} {body : List Char} (h : s.toList = q :: (Text.doubled [q] body ++ [q])) :
    Neutral quotes s := by
  have hbody : Reader.quotedBody q (Text.doubled [q] body ++ [q]) = some (body, []) :=
    Reader.quotedBody_doubled body (by simp)
  refine of_closed hquotes ?_
  rw [h]
  exact .quoted hq hbody .nil

theorem intercalate {separator : String} (hs : Neutral quotes separator)
    {texts : List String} (h : ∀ t ∈ texts, Neutral quotes t) :
    Neutral quotes (separator.intercalate texts) := by
  induction texts with
  | nil => exact empty
  | cons t ts ih =>
    have ht := h t List.mem_cons_self
    cases ts with
    | nil => rwa [String.intercalate_singleton]
    | cons u us =>
      rw [String.intercalate_cons_cons]
      exact (ht.append hs).append (ih fun x hx => h x (List.mem_cons_of_mem t hx))

end Neutral

end RequestSql.Lexical
