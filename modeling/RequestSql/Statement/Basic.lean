import RequestSql.Fields
import RequestSql.Value.Basic

/-!
# Statements

A statement is its text together with a description of what was built and an echo of what it was
built from.
-/

namespace RequestSql

/-- The methods that can be compiled. -/
inductive Method where
  | get | post | put | patch | delete
  deriving DecidableEq, Repr

namespace Method

def text : Method → String
  | .get => "GET"
  | .post => "POST"
  | .put => "PUT"
  | .patch => "PATCH"
  | .delete => "DELETE"

def all : List Method := [.get, .post, .put, .patch, .delete]

/-- The method of a word in upper case. -/
def ofText? (word : String) : Option Method := all.find? (·.text == word)

end Method

/-- What a statement does. -/
inductive Operation where
  | select | insert | update | delete
  deriving DecidableEq, Repr

def Operation.text : Operation → String
  | .select => "SELECT"
  | .insert => "INSERT"
  | .update => "UPDATE"
  | .delete => "DELETE"

/-- What was built. -/
inductive Metadata where
  | select (tableAlias : String) (whereParams : Fields Value) (hasJoins hasWhere hasOrderBy : Bool)
  | insert (columns : List String) (valueCount : Nat)
  | update (updateFields : List String) (whereParams : Fields Value)
  | delete (soft : Bool) (whereParams : Fields Value)

/-- What it was built from. -/
structure Trace where
  inputKeys : List String
  pathParams : Fields Value
  queryParams : Fields Value
  bodyKeys : List String
  hasJoins : Bool
  columns : List String

/-- A compiled statement. -/
structure Statement where
  sql : String
  operation : Operation
  method : String
  table : String
  metadata : Metadata
  trace : Trace

end RequestSql
