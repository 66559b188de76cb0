import Mathlib.Algebra.Group.Nat.Even
import Mathlib.Data.List.DropRight
import RequestSql.Clause
import RequestSql.Proofs.Reader.Basic
import RequestSql.Value.Classify

/-!
# Literals where a backslash escapes

Where a literal is written, a quote in it is doubled and nothing else is changed. A server may read
it by rules under which a backslash takes the next character with it. `StandsFor` says what a text
comes to under such rules if it is contained: no backslash takes a quote with it that was doubled, or
the one that closes. The literal of a text ends where it was meant to end exactly if the text is
contained, and comes back as it was exactly if, beside that, all its backslashes are of those that
stay.
-/

namespace RequestSql

/-- What a character stands for behind a backslash, and none where the backslash stays. -/
structure Escapes where
  meaning : Char → Option Char
  backslash : meaning '\\' = some '\\'
  quote : meaning '\'' = some '\''

namespace Escapes

/-- Every character stands for itself. -/
def plain : Escapes where
  meaning := some
  backslash := rfl
  quote := rfl

/-- Letters for characters that are not printed, and the two marks of patterns, which keep their
backslash. -/
def mysql : Escapes where
  meaning
    | '0' => some '\x00'
    | 'b' => some '\x08'
    | 'n' => some '\n'
    | 'r' => some '\r'
    | 't' => some '\t'
    | 'Z' => some '\x1a'
    | '%' | '_' => none
    | c => some c
  backslash := rfl
  quote := rfl

/-- What a backslash and a character stand for. -/
def pair (e : Escapes) (c : Char) : List Char := ((e.meaning c).map ([·])).getD ['\\', c]

theorem pair_of_some {e : Escapes} {c c' : Char} (h : e.meaning c = some c') : e.pair c = [c'] := by
  rw [pair, h]
  rfl

theorem pair_of_none {e : Escapes} {c : Char} (h : e.meaning c = none) : e.pair c = ['\\', c] := by
  rw [pair, h]
  rfl

end Escapes

namespace Reader

/-- Reads to the quote that closes. Two quotes in a row stand for one, and a backslash takes the next
character with it, whatever it is. -/
def escapedBody (e : Escapes) : List Char → Option (List Char × List Char)
  | [] => none
  | [c] => if c = '\'' then some ([], []) else none
  | c :: c' :: cs =>
    if c = '\\' then (escapedBody e cs).map fun p => (e.pair c' ++ p.1, p.2)
    else if c ≠ '\'' then (escapedBody e (c' :: cs)).map fun p => (c :: p.1, p.2)
    else if c' = '\'' then (escapedBody e cs).map fun p => ('\'' :: p.1, p.2)
    else some ([], c' :: cs)

/-- Reads a text between single quotes. -/
def escapedText (e : Escapes) : Reader String
  | '\'' :: cs => (escapedBody e cs).map fun p => (String.ofList p.1, p.2)
  | _ => none

variable {e : Escapes} {cs v rest : List Char} {c : Char}

/-- What was read behind the first character ends where the whole ends. -/
theorem behind_of_map {f : List Char → List Char} {o : Option (List Char × List Char)}
    (h : o.map (fun p => (f p.1, p.2)) = some (v, rest)) : ∃ w, o = some (w, rest) ∧ f w = v := by
  obtain ⟨p, hp, he⟩ := Option.map_eq_some_iff.mp h
  obtain ⟨hv, rfl⟩ := Prod.mk.inj he
  exact ⟨p.1, hp, hv⟩

theorem escapedBody_backslash (c : Char) (cs : List Char) :
    escapedBody e ('\\' :: c :: cs) = (escapedBody e cs).map fun p => (e.pair c ++ p.1, p.2) := by
  rw [escapedBody, if_pos rfl]

theorem escapedBody_close (h : rest.head? ≠ some '\'') :
    escapedBody e ('\'' :: rest) = some ([], rest) := by
  cases rest with
  | nil => rfl
  | cons c cs =>
    have hc : c ≠ '\'' := by simpa using h
    rw [escapedBody, if_neg (by decide), if_neg (by decide), if_neg hc]

/-- A character that is no backslash comes back, be it a quote that was doubled or any other one. -/
theorem escapedBody_doubled_cons (hc : c ≠ '\\') (cs rest : List Char) :
    escapedBody e (Text.doubled ['\''] (c :: cs) ++ rest) =
      (escapedBody e (Text.doubled ['\''] cs ++ rest)).map fun p => (c :: p.1, p.2) := by
  rw [Text.doubled_singleton, Text.doubled_singleton, List.flatMap_cons, List.append_assoc]
  by_cases hquote : c = '\''
  · subst hquote
    rfl
  · rw [if_neg hquote, List.singleton_append]
    cases cs.flatMap (fun c => if c = '\'' then ['\'', '\''] else [c]) ++ rest with
    | nil => simp [escapedBody, hquote]
    | cons c' cs => rw [escapedBody, if_neg hc, if_pos hquote]

/-- A reader takes something. -/
theorem length_lt_of_escapedBody (h : escapedBody e cs = some (v, rest)) :
    rest.length < cs.length := by
  fun_induction escapedBody e cs generalizing v with
  | case1 => cases h
  | case2 =>
    obtain ⟨-, rfl⟩ := Prod.mk.inj (Option.some.inj h)
    simp
  | case3 => cases h
  | case7 =>
    obtain ⟨-, rfl⟩ := Prod.mk.inj (Option.some.inj h)
    simp
  | case4 | case5 | case6 =>
    rename_i ih
    obtain ⟨w, hw, -⟩ := behind_of_map h
    have hlen := ih hw
    simp only [List.length_cons] at hlen ⊢
    omega

/-- Behind a doubled quote of which a backslash has taken the first half, the reader never ends at the
quote that closes. -/
theorem escapedBody_quote_ne :
    escapedBody e ('\'' :: (Text.doubled ['\''] cs ++ '\'' :: rest)) ≠ some (v, rest) := by
  rw [Text.doubled_singleton]
  -- on the quotes that follow: the half that is left and the first half of the next make a pair
  induction cs generalizing v with
  | nil =>
    intro h
    obtain ⟨w, hw, -⟩ := behind_of_map h
    exact absurd (length_lt_of_escapedBody hw) (Nat.lt_irrefl _)
  | cons c cs ih =>
    intro h
    rw [List.flatMap_cons, List.append_assoc] at h
    by_cases hc : c = '\''
    · subst hc
      obtain ⟨w, hw, -⟩ := behind_of_map h
      exact ih hw
    · rw [if_neg hc, List.singleton_append, escapedBody_close (by simpa using hc)] at h
      have hlen := congrArg (fun o => (o.map fun p => p.2.length)) h
      simp at hlen
      omega

end Reader

/-- The text between the quotes of a literal is contained, and is read as the second one: a backslash
takes a character with it, but no quote and not the end. -/
inductive Escapes.StandsFor (e : Escapes) : List Char → List Char → Prop
  | nil : StandsFor e [] []
  | plain {c : Char} {cs v : List Char} (hc : c ≠ '\\') (h : StandsFor e cs v) :
      StandsFor e (c :: cs) (c :: v)
  | pair {c : Char} {cs v : List Char} (hc : c ≠ '\'') (h : StandsFor e cs v) :
      StandsFor e ('\\' :: c :: cs) (e.pair c ++ v)

namespace Reader

variable {e : Escapes} {cs v rest : List Char} {c : Char}

theorem doubled_pair (hc : c ≠ '\'') (cs : List Char) :
    Text.doubled ['\''] ('\\' :: c :: cs) = '\\' :: c :: Text.doubled ['\''] cs := by
  rw [Text.doubled_singleton, Text.doubled_singleton, List.flatMap_cons, List.flatMap_cons,
    if_neg (by decide), if_neg hc]
  rfl

theorem escapedBody_of_standsFor (h : e.StandsFor cs v) (hrest : rest.head? ≠ some '\'') :
    escapedBody e (Text.doubled ['\''] cs ++ '\'' :: rest) = some (v, rest) := by
  induction h with
  | nil => rw [Text.doubled_nil, List.nil_append, escapedBody_close hrest]
  | plain hc _ ih => rw [escapedBody_doubled_cons hc, ih, Option.map_some]
  | pair hc _ ih =>
    rw [doubled_pair hc, List.cons_append, List.cons_append, escapedBody_backslash, ih,
      Option.map_some]

theorem standsFor_of_escapedBody (hrest : rest.head? ≠ some '\'') : ∀ {cs v : List Char},
    escapedBody e (Text.doubled ['\''] cs ++ '\'' :: rest) = some (v, rest) → e.StandsFor cs v
  | [], v, h => by
    rw [Text.doubled_nil, List.nil_append, escapedBody_close hrest] at h
    obtain ⟨rfl, -⟩ := Prod.mk.inj (Option.some.inj h)
    exact .nil
  | c :: cs, v, h => by
    by_cases hc : c = '\\'
    · subst hc
      match cs, h with
      | [], h =>
        -- the quote that closes is taken, and the rest is not read to its own start
        rw [Text.doubled_singleton] at h
        obtain ⟨w, hw, -⟩ := behind_of_map h
        exact absurd (length_lt_of_escapedBody hw) (Nat.lt_irrefl _)
      | c' :: cs, h =>
        by_cases hc' : c' = '\''
        · subst hc'
          have hdoubled : Text.doubled ['\''] ('\\' :: '\'' :: cs) =
              '\\' :: '\'' :: '\'' :: Text.doubled ['\''] cs := by
            rw [Text.doubled_singleton, Text.doubled_singleton]
            rfl
          rw [hdoubled, List.cons_append, List.cons_append, escapedBody_backslash] at h
          obtain ⟨w, hw, -⟩ := behind_of_map h
          exact absurd hw escapedBody_quote_ne
        · rw [doubled_pair hc', List.cons_append, List.cons_append, escapedBody_backslash] at h
          obtain ⟨w, hw, rfl⟩ := behind_of_map h
          exact .pair hc' (standsFor_of_escapedBody hrest hw)
    · rw [escapedBody_doubled_cons hc] at h
      obtain ⟨w, hw, rfl⟩ := behind_of_map h
      exact .plain hc (standsFor_of_escapedBody hrest hw)

/-- The literal of a text ends where it was meant to end exactly if the text is contained, and is read
as what the text stands for. -/
theorem escapedText_literal_iff {s t : String} (hrest : rest.head? ≠ some '\'') :
    escapedText e ((Dialect.stringLiteral s).toList ++ rest) = some (t, rest) ↔
      e.StandsFor s.toList t.toList := by
  rw [Dialect.toList_stringLiteral, List.cons_append, List.append_assoc, List.singleton_append,
    escapedText]
  constructor
  · intro h
    obtain ⟨p, hp, he⟩ := Option.map_eq_some_iff.mp h
    obtain ⟨rfl, hrest'⟩ := Prod.mk.inj he
    rw [String.toList_ofList]
    exact standsFor_of_escapedBody hrest (hp.trans (congrArg (fun r => some (p.1, r)) hrest'))
  · intro h
    rw [escapedBody_of_standsFor h hrest, Option.map_some, String.ofList_toList]

end Reader

/-- How many backslashes stand at the end of the text. -/
def backslashesAtEnd (cs : List Char) : Nat := (cs.rtakeWhile (· = '\\')).length

theorem even_backslashesAtEnd_concat {cs : List Char} {c : Char} :
    Even (backslashesAtEnd (cs ++ [c])) ↔ (c = '\\' → ¬ Even (backslashesAtEnd cs)) := by
  by_cases h : c = '\\' <;> simp [backslashesAtEnd, h, Nat.even_add_one]

/-- Directly before every single quote of the text and before its end, the number of backslashes is
even; those at the end of the first text count. -/
def EvenBackslashes (before cs : List Char) : Prop :=
  ∀ upTo behind, upTo ++ behind = cs → (∀ c ∈ behind.head?, c = '\'') →
    Even (backslashesAtEnd (before ++ upTo))

namespace EvenBackslashes

variable {before cs : List Char} {c : Char}

theorem nil_iff : EvenBackslashes before [] ↔ Even (backslashesAtEnd before) := by
  constructor
  · intro h
    simpa using h [] [] rfl nofun
  · intro h upTo behind hsplit _
    obtain ⟨rfl, rfl⟩ := List.append_eq_nil_iff.mp hsplit
    rwa [List.append_nil]

theorem cons_iff : EvenBackslashes before (c :: cs) ↔
    (c = '\'' → Even (backslashesAtEnd before)) ∧ EvenBackslashes (before ++ [c]) cs := by
  constructor
  · refine fun h => ⟨fun hc => ?_, fun upTo behind hsplit hbehind => ?_⟩
    · simpa using h [] (c :: cs) rfl (by simpa using hc)
    · have heven := h (c :: upTo) behind (congrArg (c :: ·) hsplit) hbehind
      rwa [List.append_cons] at heven
  · rintro ⟨hquote, htail⟩ upTo behind hsplit hbehind
    cases upTo with
    | nil =>
      obtain rfl : behind = c :: cs := hsplit
      rw [List.append_nil]
      exact hquote (hbehind c rfl)
    | cons c' upTo =>
      obtain ⟨rfl, rfl⟩ := List.cons.inj hsplit
      rw [List.append_cons]
      exact htail upTo behind rfl hbehind

end EvenBackslashes

namespace Escapes.StandsFor

variable {e : Escapes} {before cs v : List Char}

/-- Behind a contained text that starts where no backslash is left over, none is left over. -/
theorem evenBackslashes (h : e.StandsFor cs v) (hbefore : Even (backslashesAtEnd before)) :
    EvenBackslashes before cs := by
  induction h generalizing before with
  | nil => exact EvenBackslashes.nil_iff.mpr hbefore
  | plain hc _ ih =>
    refine EvenBackslashes.cons_iff.mpr ⟨fun _ => hbefore, ih ?_⟩
    exact even_backslashesAtEnd_concat.mpr fun h => absurd h hc
  | pair hc _ ih =>
    refine EvenBackslashes.cons_iff.mpr ⟨fun _ => hbefore, EvenBackslashes.cons_iff.mpr
      ⟨fun hquote => absurd hquote hc, ih ?_⟩⟩
    exact even_backslashesAtEnd_concat.mpr fun _ heven =>
      even_backslashesAtEnd_concat.mp heven rfl hbefore

theorem of_evenBackslashes (e : Escapes) : ∀ {before cs : List Char}, EvenBackslashes before cs →
    Even (backslashesAtEnd before) → ∃ v, e.StandsFor cs v
  | _, [], _, _ => ⟨[], .nil⟩
  | before, c :: cs, h, hbefore => by
    obtain ⟨-, htail⟩ := EvenBackslashes.cons_iff.mp h
    by_cases hc : c = '\\'
    · subst hc
      have hodd : ¬ Even (backslashesAtEnd (before ++ ['\\'])) := fun heven =>
        even_backslashesAtEnd_concat.mp heven rfl hbefore
      match cs, htail with
      | [], htail => exact absurd (EvenBackslashes.nil_iff.mp htail) hodd
      | c' :: cs, htail =>
        obtain ⟨hquote, htail⟩ := EvenBackslashes.cons_iff.mp htail
        have hc' : c' ≠ '\'' := mt hquote hodd
        have heven : Even (backslashesAtEnd (before ++ ['\\'] ++ [c'])) :=
          even_backslashesAtEnd_concat.mpr fun _ => hodd
        obtain ⟨v, hv⟩ := of_evenBackslashes e htail heven
        exact ⟨_, .pair hc' hv⟩
    · have heven : Even (backslashesAtEnd (before ++ [c])) :=
        even_backslashesAtEnd_concat.mpr fun h => absurd h hc
      obtain ⟨v, hv⟩ := of_evenBackslashes e htail heven
      exact ⟨_, .plain hc hv⟩

theorem length_le (h : e.StandsFor cs v) : v.length ≤ cs.length := by
  induction h with
  | nil => exact Nat.le_refl _
  | plain _ _ ih => simpa using ih
  | @pair c cs v _ _ ih =>
    cases hmeaning : e.meaning c with
    | some c' =>
      rw [pair_of_some hmeaning, List.singleton_append, List.length_cons, List.length_cons]
      exact Nat.succ_le_succ (ih.trans (Nat.le_succ _))
    | none =>
      rw [pair_of_none hmeaning]
      exact Nat.succ_le_succ (Nat.succ_le_succ ih)

/-- A backslash that takes a character with it and stays comes before one that keeps it. -/
theorem keeps_of_self (h : e.StandsFor cs v) (hv : v = cs) :
    ∀ behind, '\\' :: behind <:+ cs → ∃ c ∈ behind.head?, e.meaning c = none := by
  induction h with
  | nil => exact fun behind hbehind => absurd (List.suffix_nil.mp hbehind) (List.cons_ne_nil _ _)
  | plain hc _ ih =>
    intro behind hbehind
    rcases List.suffix_cons_iff.mp hbehind with heq | hbehind
    · exact absurd (List.cons.inj heq).1.symm hc
    · exact ih (List.cons.inj hv).2 behind hbehind
  | @pair c cs v _ h ih =>
    cases hmeaning : e.meaning c with
    | some c' =>
      -- one character for two leaves too few
      have hlen := h.length_le
      have hlen' := congrArg List.length hv
      rw [pair_of_some hmeaning, List.singleton_append, List.length_cons, List.length_cons,
        List.length_cons] at hlen'
      omega
    | none =>
      rw [pair_of_none hmeaning] at hv
      obtain ⟨-, hv⟩ := List.cons.inj hv
      obtain ⟨-, hv⟩ := List.cons.inj hv
      intro behind hbehind
      rcases List.suffix_cons_iff.mp hbehind with heq | hbehind
      · obtain ⟨-, rfl⟩ := List.cons.inj heq
        exact ⟨c, rfl, hmeaning⟩
      rcases List.suffix_cons_iff.mp hbehind with heq | hbehind
      · obtain ⟨rfl, -⟩ := List.cons.inj heq
        rw [e.backslash] at hmeaning
        cases hmeaning
      · exact ih hv behind hbehind

theorem self_of_keeps (e : Escapes) : ∀ {cs : List Char},
    (∀ behind, '\\' :: behind <:+ cs → ∃ c ∈ behind.head?, e.meaning c = none) → e.StandsFor cs cs
  | [], _ => .nil
  | c :: cs, h => by
    by_cases hc : c = '\\'
    · subst hc
      obtain ⟨c', hc', hmeaning⟩ := h cs (List.suffix_refl _)
      match cs, hc', h with
      | _ :: cs, rfl, h =>
        have hquote : c' ≠ '\'' := by
          rintro rfl
          rw [e.quote] at hmeaning
          cases hmeaning
        have htail := self_of_keeps e fun behind hbehind =>
          h behind (hbehind.trans ((List.suffix_cons _ _).trans (List.suffix_cons _ _)))
        have hpair := htail.pair hquote
        rwa [pair_of_none hmeaning] at hpair
    · exact .plain hc (self_of_keeps e fun behind hbehind =>
        h behind (hbehind.trans (List.suffix_cons _ _)))

/-- A text stands for itself exactly if each of its backslashes stands before a character that keeps
it. -/
theorem self_iff : e.StandsFor cs cs ↔
    ∀ behind, '\\' :: behind <:+ cs → ∃ c ∈ behind.head?, e.meaning c = none :=
  ⟨fun h => h.keeps_of_self rfl, self_of_keeps e⟩

end Escapes.StandsFor

theorem Escapes.meaning_mysql_eq_none_iff {c : Char} :
    Escapes.mysql.meaning c = none ↔ c = '%' ∨ c = '_' := by
  unfold Escapes.mysql
  dsimp only
  split
  all_goals simp_all

namespace Reader

theorem keeps_plain_iff {cs : List Char} :
    (∀ behind, '\\' :: behind <:+ cs → ∃ c ∈ behind.head?, Escapes.plain.meaning c = none) ↔
      '\\' ∉ cs := by
  constructor
  · intro h hmem
    obtain ⟨before, behind, rfl⟩ := List.append_of_mem hmem
    obtain ⟨c, -, hc⟩ := h behind (List.suffix_append _ _)
    cases hc
  · intro h behind hbehind
    exact absurd (hbehind.mem List.mem_cons_self) h

/-- The literal of a text ends where it was meant to end exactly if the number of backslashes is even
before each of its quotes and at its end. It comes back as it was exactly if each backslash stands
before a mark of patterns, and by the plain rules exactly if there is no backslash. -/
theorem mysql_literal_read_back {s : String} {rest : List Char} (hrest : rest.head? ≠ some '\'') :
    (∀ e, (∃ t, escapedText e ((Dialect.mysql.literal (.ofValue (.text s))).toList ++ rest) =
        some (t, rest)) ↔ EvenBackslashes [] s.toList) ∧
      (escapedText .mysql ((Dialect.mysql.literal (.ofValue (.text s))).toList ++ rest) =
        some (s, rest) ↔
          ∀ behind, '\\' :: behind <:+ s.toList → ∃ c ∈ behind.head?, c = '%' ∨ c = '_') ∧
      (escapedText .plain ((Dialect.mysql.literal (.ofValue (.text s))).toList ++ rest) =
        some (s, rest) ↔ '\\' ∉ s.toList) := by
  change (∀ e, (∃ t, escapedText e ((Dialect.stringLiteral s).toList ++ rest) = some (t, rest)) ↔ _) ∧
    (escapedText .mysql ((Dialect.stringLiteral s).toList ++ rest) = some (s, rest) ↔ _) ∧
    (escapedText .plain ((Dialect.stringLiteral s).toList ++ rest) = some (s, rest) ↔ _)
  refine ⟨fun e => ⟨?ends, fun heven => ?meant⟩, ?kept, ?plain⟩
  case ends =>
    rintro ⟨t, ht⟩
    exact ((escapedText_literal_iff hrest).mp ht).evenBackslashes Even.zero
  case meant =>
    obtain ⟨v, hv⟩ := Escapes.StandsFor.of_evenBackslashes e heven Even.zero
    refine ⟨String.ofList v, (escapedText_literal_iff hrest).mpr ?_⟩
    rwa [String.toList_ofList]
  case kept =>
    rw [escapedText_literal_iff hrest, Escapes.StandsFor.self_iff]
    simp only [Escapes.meaning_mysql_eq_none_iff]
  case plain => rw [escapedText_literal_iff hrest, Escapes.StandsFor.self_iff, keeps_plain_iff]

/-- A backslash before a percent sign stays, and a quote beside it comes back. -/
theorem mysql_literal_read_back_of_mark :
    ∃ s rest, s = "5\\%'" ∧ rest = [')'] ∧ rest.head? ≠ some '\'' ∧
      EvenBackslashes [] s.toList ∧
      escapedText .mysql ((Dialect.mysql.literal (.ofValue (.text s))).toList ++ rest) =
        some (s, rest) ∧
      (∀ behind, '\\' :: behind <:+ s.toList → ∃ c ∈ behind.head?, c = '%' ∨ c = '_') ∧
      escapedText .plain ((Dialect.mysql.literal (.ofValue (.text s))).toList ++ rest) ≠
        some (s, rest) := by
  have hrest : [')'].head? ≠ some '\'' := by decide
  obtain ⟨hends, hkept, hplain⟩ := mysql_literal_read_back (s := "5\\%'") hrest
  have hread : escapedText .mysql
      ((Dialect.mysql.literal (.ofValue (.text "5\\%'"))).toList ++ [')']) =
        some ("5\\%'", [')']) := by decide +kernel
  exact ⟨_, _, rfl, rfl, hrest, (hends .mysql).mp ⟨_, hread⟩, hread, hkept.mp hread,
    fun h => hplain.mp h (by decide)⟩

/-- Of two values that filter rows, the first is a backslash. Its literal takes in what stands between
them, and the text of the second is left outside. -/
theorem backslash_releases_next :
    ∃ s tail sql, s = "\\" ∧ tail = " AND `b` = ' OR 1 = 1 -- '" ∧
      sql = Clause.filter .mysql none [("a", .text s), ("b", .text " OR 1 = 1 -- ")] ∧
      sql = "WHERE `a` = " ++ Dialect.mysql.literal (.ofValue (.text s)) ++ tail ∧
      tail.toList.head? ≠ some '\'' ∧
      ∀ e, escapedText e ((Dialect.mysql.literal (.ofValue (.text s))).toList ++ tail.toList) =
        some ("' AND `b` = ", " OR 1 = 1 -- '".toList) ∧
        escapedText e ((Dialect.mysql.literal (.ofValue (.text s))).toList ++ tail.toList) ≠
          some (s, tail.toList) := by
  refine ⟨"\\", _, _, rfl, rfl, rfl, by decide +kernel, by decide +kernel, fun e => ?_⟩
  have hread : escapedText e ((Dialect.mysql.literal (.ofValue (.text "\\"))).toList ++
      " AND `b` = ' OR 1 = 1 -- '".toList) = some ("' AND `b` = ", " OR 1 = 1 -- '".toList) := by
    have htext : (Dialect.mysql.literal (.ofValue (.text "\\"))).toList ++
        " AND `b` = ' OR 1 = 1 -- '".toList =
          '\'' :: '\\' :: '\'' :: " AND `b` = ' OR 1 = 1 -- '".toList := by decide +kernel
    have htail : escapedBody e " AND `b` = ' OR 1 = 1 -- '".toList =
        some (" AND `b` = ".toList, " OR 1 = 1 -- '".toList) := rfl
    rw [htext, escapedText, escapedBody_backslash, Escapes.pair_of_some e.quote, htail]
    decide +kernel
  refine ⟨hread, ?_⟩
  rw [hread]
  decide +kernel

end Reader

end RequestSql
