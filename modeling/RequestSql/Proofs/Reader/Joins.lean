import RequestSql.Proofs.Reader.Filter
import RequestSql.Request.Read

/-!
# Joins read back

Every join stands on a line of its own that starts with its kind. Its condition is raw text, so
only the end of the line ends it, or the semicolon that ends the whole statement. For kinds that
are known and conditions that stay on their line, the reader gives back each join as it was asked
for; an empty second name counts as none.
-/

namespace RequestSql

/-- The join as it can be told from its text. -/
def Join.asRead (j : Join) : Join := { j with asName := Request.nonempty j.asName }

namespace Reader

variable {d : Dialect}

/-- Reads everything but the semicolon at the very end. -/
def remainder : Reader String := fun cs =>
  if cs.getLast? = some ';' then some (String.ofList cs.dropLast, [';']) else none

/-- Reads to the end of the line, or of the statement. -/
def condition : Reader String := fun cs =>
  match cs.dropWhile (· ≠ '\n') with
  | [] => remainder cs
  | rest => some (String.ofList (cs.takeWhile (· ≠ '\n')), rest)

/-- How the line of a join starts. -/
def joinStart (kind : JoinKind) : String := "\n" ++ kind.text ++ " JOIN "

/-- Reads the start of a join of one of several kinds, if there is one. -/
def joinKind : List JoinKind → Reader (Option JoinKind)
  | [] => pure none
  | kind :: kinds => ifNext (joinStart kind) (pure (some kind)) (joinKind kinds)

/-- Reads the second name of a joined table, if it has one. -/
def joinName : Reader (Option String) :=
  ifNext " ON " (pure none) do
    word " "
    let name ← identifier
    word " ON "
    return some name

/-- Reads a join behind the start of its line. -/
def joinOf (kind : JoinKind) : Reader Join := do
  let table ← identifier
  let name ← joinName
  (fun c => { table, condition := c, kind, asName := name }) <$> condition

/-- Reads joins as long as a line starts one; the number bounds how many. -/
def joinsUpTo : Nat → Reader (List Join)
  | 0 => failure
  | n + 1 => do
    match ← joinKind JoinKind.known with
    | none => return []
    | some kind =>
      let j ← joinOf kind
      (j :: ·) <$> joinsUpTo n

def joins : Reader (List Join) := fun cs => joinsUpTo (cs.length + 1) cs

theorem reads_remainder (text : String) : Reads remainder text.toList text (· = [';']) := by
  rintro rest rfl
  rw [remainder, List.getLast?_concat, if_pos rfl, List.dropLast_concat, String.ofList_toList]

/-- What ends a raw condition: the end of its line or of the statement. -/
def EndsLine (rest : List Char) : Prop := rest = [';'] ∨ ∃ more, rest = '\n' :: more

theorem reads_condition {text : String} (h : '\n' ∉ text.toList) :
    Reads condition text.toList text EndsLine := by
  have hin : ∀ c ∈ text.toList, decide (c ≠ '\n') = true := fun c hc =>
    decide_eq_true fun he => h (he ▸ hc)
  rintro rest (rfl | ⟨more, rfl⟩)
  · have hdrop : (text.toList ++ [';']).dropWhile (· ≠ '\n') = [] := by
      rw [List.dropWhile_append_of_pos hin]
      rfl
    rw [condition, hdrop]
    exact reads_remainder text _ rfl
  · have hdrop : (text.toList ++ '\n' :: more).dropWhile (· ≠ '\n') = '\n' :: more := by
      rw [List.dropWhile_append_of_pos hin]
      rfl
    have htake : (text.toList ++ '\n' :: more).takeWhile (· ≠ '\n') = text.toList := by
      rw [List.takeWhile_append_of_pos hin]
      exact List.append_nil _
    simp only [condition, hdrop, htake, String.ofList_toList]

/-- No line of a join is next. -/
def NoJoin (rest : List Char) : Prop :=
  ∀ kind ∈ JoinKind.known, ¬ (joinStart kind).toList <+: rest

instance (rest : List Char) : Decidable (NoJoin rest) := by
  unfold NoJoin; infer_instance

/-- The starts of two kinds differ before either ends. -/
theorem joinStart_differs : ∀ k ∈ JoinKind.known, ∀ k' ∈ JoinKind.known, k ≠ k' →
    ¬ (joinStart k).toList <+: (joinStart k').toList := by
  decide

theorem reads_joinKind {kind : JoinKind} (h : kind ∈ JoinKind.known) {next : List Char → Prop} :
    Reads (joinKind JoinKind.known) (joinStart kind).toList (some kind) next := by
  suffices hkinds : ∀ kinds, (∀ k ∈ kinds, k ∈ JoinKind.known) → kind ∈ kinds →
      Reads (joinKind kinds) ((joinStart kind).toList ++ []) (some kind) next by
    have hall := hkinds JoinKind.known (fun _ hk => hk) h
    rwa [List.append_nil] at hall
  intro kinds hknown hmem
  induction kinds with
  | nil => exact absurd hmem List.not_mem_nil
  | cons k kinds ih =>
    by_cases hk : k = kind
    · subst hk
      exact (Reads.pure _).ifNext_present _
    · have hmem' : kind ∈ kinds := (List.mem_cons.mp hmem).resolve_left fun he => hk he.symm
      have hk' := hknown k List.mem_cons_self
      exact (ih (fun x hx => hknown x (List.mem_cons_of_mem k hx)) hmem').ifNext_other
        (joinStart_differs k hk' kind h hk) (joinStart_differs kind h k hk' (Ne.symm hk))

theorem reads_noJoin : Reads (joinKind JoinKind.known) [] none NoJoin := by
  suffices hkinds : ∀ kinds, (∀ k ∈ kinds, k ∈ JoinKind.known) →
      Reads (joinKind kinds) [] none NoJoin from hkinds _ fun _ hk => hk
  intro kinds hknown
  induction kinds with
  | nil => exact Reads.pure none
  | cons k kinds ih =>
    refine (ih fun x hx => hknown x (List.mem_cons_of_mem k hx)).ifNext_absent fun rest hrest => ?_
    exact hrest k (hknown k List.mem_cons_self)

/-- The text between the name of a joined table and its condition. -/
def joinNameText (d : Dialect) (name : Option String) : String :=
  match Request.nonempty name with
  | none => " ON "
  | some name => " " ++ d.identifier name ++ " ON "

/-- The line of a join in the order in which it is read. -/
theorem toList_join (d : Dialect) (j : Join) :
    '\n' :: (Clause.join d j).toList = (joinStart j.kind).toList ++
      ((d.identifier j.table).toList ++
        ((joinNameText d j.asName).toList ++ j.condition.toList)) := by
  obtain ⟨table, condition, kind, name⟩ := j
  match name with
  | none => simp [Clause.join, joinStart, joinNameText, Request.nonempty]
  | some name =>
    by_cases hname : name = ""
    · subst hname
      simp [Clause.join, joinStart, joinNameText, Request.nonempty]
    · simp [Clause.join, joinStart, joinNameText, Request.nonempty]

/-- A second name starts with a quote, so it is not taken for the word behind it. -/
theorem on_not_isPrefix (hd : Readable d) (name : String) (rest : List Char) :
    ¬ " ON ".toList <+: " ".toList ++ ((d.identifier name).toList ++ rest) := by
  obtain ⟨more, hmore⟩ : ∃ more, " ".toList ++ ((d.identifier name).toList ++ rest) =
      (' ' :: d.quote.toList) ++ more := by
    rw [Dialect.toList_identifier, List.append_assoc, List.append_assoc]
    exact ⟨_, rfl⟩
  rw [hmore]
  rcases hd.quote with h | h
  · rw [h]
    exact not_isPrefix_append (by decide) (by decide) more
  · rw [h]
    exact not_isPrefix_append (by decide) (by decide) more

theorem reads_joinName (hd : Readable d) (name : Option String) {next : List Char → Prop} :
    Reads joinName (joinNameText d name).toList (Request.nonempty name) next := by
  unfold joinNameText
  cases Request.nonempty name with
  | none =>
    have h : Reads joinName (" ON ".toList ++ []) none next := (Reads.pure _).ifNext_present _
    rwa [List.append_nil] at h
  | some name =>
    have hname : Reads (do let name ← identifier; word " ON "; return some name)
        ((d.identifier name).toList ++ (" ON ".toList ++ [])) (some name) next :=
      (reads_identifier hd name).upTo " ON " (isBreak_append (by decide) (by decide)) (Reads.pure _)
    have h : Reads joinName (" ".toList ++ ((d.identifier name).toList ++ (" ON ".toList ++ [])))
        (some name) next :=
      (hname.behind " ").ifNext_absent fun rest _ => by
        rw [List.append_assoc, List.append_assoc]
        exact on_not_isPrefix hd name _
    simpa using h

/-- The text between a joined table and its condition ends the name of the table. -/
theorem isBreak_joinNameText (d : Dialect) (name : Option String) (rest : List Char) :
    IsBreak ((joinNameText d name).toList ++ rest) := by
  unfold joinNameText
  cases Request.nonempty name with
  | none => exact isBreak_append (w := " ON ".toList) (by decide) (by decide) rest
  | some name =>
    have htext : (" " ++ d.identifier name ++ " ON ").toList ++ rest =
        " ".toList ++ ((d.identifier name).toList ++ (" ON ".toList ++ rest)) := by simp
    change IsBreak ((" " ++ d.identifier name ++ " ON ").toList ++ rest)
    rw [htext]
    exact isBreak_append (by decide) (by decide) _

theorem reads_joinOf (hd : Readable d) {j : Join} (h : '\n' ∉ j.condition.toList) :
    Reads (joinOf j.kind) ((d.identifier j.table).toList ++
      ((joinNameText d j.asName).toList ++ j.condition.toList)) j.asRead EndsLine := by
  have hname : Reads joinName _ _ fun _ => True := reads_joinName hd j.asName
  refine (reads_identifier hd j.table).bind ?_ fun rest _ => ?_
  · exact hname.bind ((reads_condition h).map _) fun _ _ => trivial
  · rw [List.append_assoc]
    exact isBreak_joinNameText d j.asName _

/-- What ends the joins: neither a continued condition nor another join. -/
def EndsJoins (rest : List Char) : Prop := EndsLine rest ∧ NoJoin rest

theorem reads_joinsUpTo (hd : Readable d) {js : List Join} {n : Nat}
    (hjs : ∀ j ∈ js, j.kind ∈ JoinKind.known ∧ '\n' ∉ j.condition.toList) (hn : js.length < n) :
    Reads (joinsUpTo n) (js.flatMap fun j => '\n' :: (Clause.join d j).toList)
      (js.map Join.asRead) EndsJoins := by
  induction js generalizing n with
  | nil =>
    obtain ⟨n, rfl⟩ : ∃ m, n = m + 1 := ⟨n - 1, by simp at hn; omega⟩
    exact reads_noJoin.bind (Reads.pure []) fun rest hrest => hrest.2
  | cons j js ih =>
    obtain ⟨n, rfl⟩ : ∃ m, n = m + 1 := ⟨n - 1, by simp at hn; omega⟩
    obtain ⟨hkind, hline⟩ := hjs j List.mem_cons_self
    have htail := ih (n := n) (fun x hx => hjs x (List.mem_cons_of_mem j hx)) (by simpa using hn)
    have hstart : Reads (joinKind JoinKind.known) _ (some j.kind) fun _ => True :=
      reads_joinKind hkind
    rw [List.flatMap_cons, toList_join, List.append_assoc]
    refine hstart.bind ?_ fun _ _ => trivial
    refine (reads_joinOf hd hline).bind (htail.map (j.asRead :: ·)) fun rest hrest => ?_
    cases js with
    | nil => exact hrest.1
    | cons i is => exact .inr ⟨_, rfl⟩

theorem reads_joins (hd : Readable d) {js : List Join}
    (hjs : ∀ j ∈ js, j.kind ∈ JoinKind.known ∧ '\n' ∉ j.condition.toList) :
    Reads joins (Statement.line (Clause.joins d js)) (js.map Join.asRead) EndsJoins := by
  intro rest hrest
  rw [Statement.line_joins]
  refine reads_joinsUpTo hd hjs ?_ rest hrest
  have hlen : ∀ is : List Join,
      is.length ≤ (is.flatMap fun j => '\n' :: (Clause.join d j).toList).length := by
    intro is
    induction is with
    | nil => exact Nat.le_refl 0
    | cons i is ih =>
      simp only [List.flatMap_cons, List.length_append, List.length_cons]
      omega
  have h := hlen js
  rw [List.length_append]
  omega

end Reader

end RequestSql
