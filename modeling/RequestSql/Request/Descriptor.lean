import RequestSql.Fields
import RequestSql.Request.Keyword
import RequestSql.Value.Basic

/-!
# Descriptors

A descriptor names one operation on one table: what to read or write, which rows, in which order.
-/

namespace RequestSql

/-- The column name that stands for all columns. -/
def wildcard : String := "*"

/-- One joined table. The condition is raw SQL. -/
structure Join where
  table : String
  condition : String
  kind : JoinKind := .left
  /-- The name that the joined table goes by. -/
  asName : Option String := none
  deriving DecidableEq, Repr

/-- How the rows are ordered. -/
inductive OrderBy where
  /-- One raw expression. -/
  | text (expression : String)
  /-- Several raw expressions. -/
  | list (expressions : List String)
  /-- A column, which is quoted, and a direction. -/
  | column (name : String) (direction : Direction)
  /-- A value that is no ordering. -/
  | unknown (v : Value)

/-- One operation to compile. The method is in upper case if a request was read, but it need not be
a supported one, and the table may be missing. -/
structure Descriptor where
  method : String
  table : Option String
  pathParams : Fields Scalar := .empty
  queryParams : Fields Scalar := .empty
  body : Fields Scalar := .empty
  joins : List Join := []
  columns : List String := [wildcard]
  orderBy : Option OrderBy := none
  softDelete : Bool := true
  /-- The keys of the request as its sender wrote them. -/
  inputKeys : List String := []

end RequestSql
