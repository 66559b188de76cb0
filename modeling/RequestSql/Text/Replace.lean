/-!
# Replacing and doubling

`replaceAll old new` writes `new` for every occurrence of `old`, found from left to right without
overlap. `doubled q` writes every such occurrence of `q` twice: it is the escape of quoted
identifiers and of string literals.
-/

namespace RequestSql.Text

/-- Replaces occurrences of a text that is not empty. The number counts the characters of the
occurrence found last that are still to be passed over. -/
def replaceFrom (old new : List Char) : Nat → List Char → List Char
  | _, [] => []
  | skip + 1, _ :: cs => replaceFrom old new skip cs
  | 0, c :: cs =>
    if old.isPrefixOf (c :: cs) then new ++ replaceFrom old new (old.length - 1) cs
    else c :: replaceFrom old new 0 cs

/-- Replaces the leftmost, non-overlapping occurrences of `old` by `new`. The empty text is
nowhere to be found. -/
def replaceAll (old new cs : List Char) : List Char :=
  if old = [] then cs else replaceFrom old new 0 cs

/-- Writes every leftmost, non-overlapping occurrence of `q` twice. -/
def doubled (q cs : List Char) : List Char := replaceAll q (q ++ q) cs

theorem replaceFrom_skip (old new : List Char) (n : Nat) (cs : List Char) :
    replaceFrom old new n cs = replaceFrom old new 0 (cs.drop n) := by
  induction n generalizing cs with
  | zero => simp
  | succ n ih =>
    cases cs with
    | nil => simp [replaceFrom]
    | cons c cs => rw [replaceFrom, ih, List.drop_succ_cons]

@[simp] theorem doubled_nil (q : List Char) : doubled q [] = [] := by
  simp [doubled, replaceAll, replaceFrom]

@[simp] theorem doubled_by_empty (cs : List Char) : doubled [] cs = cs := by
  simp [doubled, replaceAll]

/-- Doubling one character works character by character. -/
theorem doubled_singleton (q : Char) (cs : List Char) :
    doubled [q] cs = cs.flatMap fun c => if c = q then [q, q] else [c] := by
  simp only [doubled, replaceAll, List.cons_ne_nil, if_false]
  induction cs with
  | nil => rfl
  | cons c cs ih => by_cases h : q = c <;> grind [replaceFrom]

end RequestSql.Text
