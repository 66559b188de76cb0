import RequestSql.Dialect.Basic
import RequestSql.Request.Descriptor

/-!
# Clauses

Each function writes one clause of a statement, or the empty text where there is nothing to write.
Conditions of joins, raw orderings and columns with a name of their own are trusted as they are.
-/

namespace RequestSql.Clause

/-- A column behind the unquoted qualifier, if there is one that is not empty. -/
def qualified (d : Dialect) (qualifier : Option String) (column : String) : String :=
  match qualifier with
  | none | some "" => d.identifier column
  | some q => q ++ "." ++ d.identifier column

/-- One equality test; a null is tested for. -/
def conjunct (d : Dialect) (qualifier : Option String) (param : String × Scalar) : String :=
  qualified d qualifier param.1 ++
    match param.2 with
    | .null => " IS NULL"
    | v => " = " ++ d.literal v

def filter (d : Dialect) (qualifier : Option String) (params : List (String × Scalar)) : String :=
  if params.isEmpty then ""
  else "WHERE " ++ " AND ".intercalate (params.map (conjunct d qualifier))

def join (d : Dialect) (j : Join) : String :=
  let source := match j.asName with
    | none | some "" => d.identifier j.table
    | some name => d.identifier j.table ++ " " ++ d.identifier name
  j.kind.text ++ " JOIN " ++ source ++ " ON " ++ j.condition

/-- The joins, one a line. -/
def joins (d : Dialect) (js : List Join) : String := "\n".intercalate (js.map (join d))

/-- The text starts with a blank, the word `AS` in any letter case, and a blank. The long s folds
to the letter s. -/
def startsWithAs : List Char → Bool
  | ' ' :: a :: s :: ' ' :: _ => (a == 'a' || a == 'A') && (s == 's' || s == 'S' || s == 'ſ')
  | _ => false

/-- The word `AS` stands between blanks somewhere in the text. -/
def hasAs : List Char → Bool
  | [] => false
  | c :: cs => startsWithAs (c :: cs) || hasAs cs

def column (d : Dialect) (qualifier : Option String) (name : String) : String :=
  if hasAs name.toList then name else qualified d qualifier name

/-- The projection. A wildcard anywhere stands for the whole list. -/
def projection (d : Dialect) (qualifier : Option String) (columns : List String) : String :=
  if wildcard ∈ columns then
    match qualifier with
    | none | some "" => wildcard
    | some q => q ++ "." ++ wildcard
  else ", ".intercalate (columns.map (column d qualifier))

/-- The ordering; a value that is no ordering is handed back. -/
def ordering (d : Dialect) : Option OrderBy → Except Value String
  | none => .ok ""
  | some (.text expression) => .ok ("ORDER BY " ++ expression)
  | some (.list expressions) => .ok ("ORDER BY " ++ ", ".intercalate expressions)
  | some (.column name direction) =>
    .ok ("ORDER BY " ++ d.identifier name ++ " " ++ direction.text)
  | some (.unknown v) => .error v

end RequestSql.Clause
