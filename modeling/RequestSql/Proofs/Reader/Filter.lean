import RequestSql.Proofs.Reader.Lexeme
import RequestSql.Proofs.Statement.Form

/-!
# Filters read back

A filter is a list of equality tests, and a null is tested for by `IS NULL`. The reader of filters
is told the qualifier of the columns and gives back every column with its literal, or with none
for a null, in the order of the parameters.
-/

namespace RequestSql

/-- What a column is tested against; nothing for a null. -/
def Literal.operand? (d : Dialect) : Scalar → Option Literal
  | .null => none
  | v => some (.ofScalar d v)

/-- The tests that parameters ask for. -/
def Literal.tests (d : Dialect) (params : List (String × Scalar)) :
    List (String × Option Literal) :=
  params.map fun p => (p.1, operand? d p.2)

namespace Clause

/-- The text before a qualified column. -/
def qualifierText : Option String → String
  | none | some "" => ""
  | some q => q ++ "."

/-- The text behind the column of a test. -/
def operandText (d : Dialect) : Scalar → String
  | .null => " IS NULL"
  | v => " = " ++ d.literal v

theorem qualified_eq (d : Dialect) (qualifier : Option String) (column : String) :
    qualified d qualifier column = qualifierText qualifier ++ d.identifier column := by
  unfold qualified
  split
  · exact String.empty_append.symm
  · exact String.empty_append.symm
  · rename_i q hq
    rw [qualifierText]
    exact hq

theorem conjunct_eq (d : Dialect) (qualifier : Option String) (p : String × Scalar) :
    conjunct d qualifier p =
      qualifierText qualifier ++ (d.identifier p.1 ++ operandText d p.2) := by
  rw [← String.append_assoc, ← qualified_eq]
  obtain ⟨column, v⟩ := p
  cases v <;> rfl

theorem operandText_of_ne_null {d : Dialect} {v : Scalar} (h : v ≠ .null) :
    operandText d v = " = " ++ d.literal v := by
  cases v with
  | null => exact absurd rfl h
  | bool b => rfl
  | number n => rfl
  | text s => rfl

end Clause

/-- The line of a filter on at least one parameter. -/
theorem Statement.line_filter (d : Dialect) (qualifier : Option String)
    {params : List (String × Scalar)} (hne : params ≠ []) :
    line (Clause.filter d qualifier params) = "\nWHERE ".toList ++
      (" AND ".intercalate (params.map (Clause.conjunct d qualifier))).toList := by
  have hfilter : Clause.filter d qualifier params ≠ "" :=
    fun h => hne (Clause.filter_eq_empty_iff.mp h)
  rw [line_of_ne hfilter, Clause.filter_of_ne_nil hne, String.toList_append]
  rfl

namespace Reader

variable {d : Dialect}

def operand : Reader (Option Literal) :=
  ifNext " IS NULL" (pure none) do
    word " = "
    some <$> literal

def conjunct (qualifier : String) : Reader (String × Option Literal) := do
  word qualifier
  let column ← identifier
  (column, ·) <$> operand

def conjuncts (qualifier : String) : Reader (List (String × Option Literal)) :=
  items " AND " (conjunct qualifier)

theorem reads_operand (hd : Readable d) (v : Scalar) :
    Reads operand (Clause.operandText d v).toList (Literal.operand? d v) IsBreak := by
  by_cases hv : v = .null
  · subst hv
    have h : Reads operand (" IS NULL".toList ++ []) none IsBreak :=
      (Reads.pure _).ifNext_present _
    rwa [List.append_nil] at h
  · have h : Reads operand (" = ".toList ++ (d.literal v).toList) (some (.ofScalar d v)) IsBreak :=
      (((reads_literal hd v).map some).behind " = ").ifNext_other (by decide) (by decide)
    have hop : Literal.operand? d v = some (.ofScalar d v) := by
      cases v with
      | null => exact absurd rfl hv
      | bool b => rfl
      | number n => rfl
      | text s => rfl
    rwa [Clause.operandText_of_ne_null hv, String.toList_append, hop]

theorem isBreak_operandText (v : Scalar) (rest : List Char) :
    IsBreak ((Clause.operandText d v).toList ++ rest) := by
  by_cases hv : v = .null
  · subst hv
    exact isBreak_append (w := " IS NULL".toList) (by decide) (by decide) rest
  · rw [Clause.operandText_of_ne_null hv, String.toList_append, List.append_assoc]
    exact isBreak_append (by decide) (by decide) _

theorem reads_conjunct (hd : Readable d) (qualifier : Option String) (p : String × Scalar) :
    Reads (conjunct (Clause.qualifierText qualifier)) (Clause.conjunct d qualifier p).toList
      (p.1, Literal.operand? d p.2) IsBreak := by
  rw [Clause.conjunct_eq, String.toList_append, String.toList_append]
  exact ((reads_identifier hd p.1).bind ((reads_operand hd p.2).map _)
    fun rest _ => isBreak_operandText p.2 rest).behind _

/-- All tests come back in their order, up to the end of a clause. -/
theorem reads_conjuncts (hd : Readable d) (qualifier : Option String)
    {params : List (String × Scalar)} (hne : params ≠ []) :
    Reads (conjuncts (Clause.qualifierText qualifier))
      (" AND ".intercalate (params.map (Clause.conjunct d qualifier))).toList
      (Literal.tests d params) (EndsItems " AND ") :=
  reads_list (by decide) (by decide) (fun p _ => reads_conjunct hd qualifier p) hne

end Reader

end RequestSql
