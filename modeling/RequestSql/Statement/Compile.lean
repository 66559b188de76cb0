import RequestSql.Clause
import RequestSql.Statement.Basic
import RequestSql.Statement.Refusal
import RequestSql.Value.Classify

/-!
# Compiling a descriptor

`Statement.compile` gives the one statement of a descriptor or says why there is none. The table is
checked first, then the method, then the body, then the identifier; a deletion is a change of
`is_active` unless the descriptor asks for a hard one.
-/

namespace RequestSql

/-- Why compiling fails. -/
inductive CompileError where
  | refused (r : Refusal)
  /-- The ordering of a reading is no ordering. -/
  | unknownOrdering (v : Value)

def CompileError.message : CompileError → String
  | .refused r => r.message
  | .unknownOrdering v => "Unknown order_by variant: " ++ v.shortKind

/-- The short name that qualifies the columns of a reading: the first two characters. -/
def tableAlias (table : String) : String := String.ofList (table.toList.take 2)

def plainParams (params : Fields Scalar) : Fields Value := params.map Scalar.toValue

/-- The parameters that only route a request and never filter a reading. -/
def routingKeys : List String := ["table", "lookup_type"]

/-- The column that a soft deletion clears. -/
def activeColumn : String := "is_active"

namespace Statement

/-- The clauses that are not empty, one a line, closed by a semicolon. -/
def assemble (clauses : List String) : String :=
  "\n".intercalate (clauses.filter (· ≠ "")) ++ ";"

def traceOf (r : Descriptor) : Trace where
  inputKeys := r.inputKeys
  pathParams := plainParams r.pathParams
  queryParams := plainParams r.queryParams
  bodyKeys := r.body.keys
  hasJoins := !r.joins.isEmpty
  columns := r.columns

/-- The filter of a reading: path parameters, overwritten and extended by the query, without the
routing keys. -/
def readParams (r : Descriptor) : Fields Scalar :=
  routingKeys.foldl Fields.erase (r.pathParams.merge r.queryParams)

def select (d : Dialect) (r : Descriptor) (table : String) : Except CompileError Statement :=
  let shortName := tableAlias table
  let params := readParams r
  let joins := Clause.joins d r.joins
  let filter := Clause.filter d (some shortName) params.entries
  match Clause.ordering d r.orderBy with
  | .error v => .error (.unknownOrdering v)
  | .ok ordering => .ok {
      sql := assemble [
        "SELECT " ++ Clause.projection d (some shortName) r.columns,
        "FROM " ++ d.identifier table ++ " " ++ shortName,
        joins, filter, ordering]
      operation := .select
      method := r.method
      table := table
      metadata := .select shortName (plainParams params) (joins ≠ "") (filter ≠ "") (ordering ≠ "")
      trace := traceOf r }

def insert (d : Dialect) (r : Descriptor) (table : String) : Except CompileError Statement :=
  if r.body.isEmpty then .error (.refused (.emptyBody r.method))
  else .ok {
    sql := assemble [
      "INSERT INTO " ++ d.identifier table ++
        " (" ++ ", ".intercalate (r.body.keys.map d.identifier) ++ ")",
      "VALUES (" ++ ", ".intercalate (r.body.values.map d.literal) ++ ")"]
    operation := .insert
    method := r.method
    table := table
    metadata := .insert r.body.keys r.body.size
    trace := traceOf r }

/-- The filter of a write, which must not be empty. -/
def boundedFilter (d : Dialect) (r : Descriptor) : Except CompileError String :=
  let filter := Clause.filter d none r.pathParams.entries
  if filter = "" then .error (.refused (.missingIdentifier r.method)) else .ok filter

def assignment (d : Dialect) (field : String × Scalar) : String :=
  d.identifier field.1 ++ " = " ++ d.literal field.2

/-- An update of the rows that the path parameters select. -/
def update (d : Dialect) (r : Descriptor) (table : String) : Except CompileError Statement :=
  if r.body.isEmpty then .error (.refused (.emptyBody r.method))
  else match boundedFilter d r with
  | .error e => .error e
  | .ok filter => .ok {
      sql := assemble [
        "UPDATE " ++ d.identifier table,
        "SET " ++ ", ".intercalate (r.body.entries.map (assignment d)),
        filter]
      operation := .update
      method := r.method
      table := table
      metadata := .update r.body.keys (plainParams r.pathParams)
      trace := traceOf r }

/-- A deletion of the rows that the path parameters select: soft, by clearing a column, or hard. -/
def delete (d : Dialect) (r : Descriptor) (table : String) : Except CompileError Statement :=
  match boundedFilter d r with
  | .error e => .error e
  | .ok filter => .ok {
      sql :=
        if r.softDelete then assemble [
          "UPDATE " ++ d.identifier table,
          "SET " ++ d.identifier activeColumn ++ " = " ++ d.boolText false,
          filter]
        else assemble ["DELETE FROM " ++ d.identifier table, filter]
      operation := if r.softDelete then .update else .delete
      method := r.method
      table := table
      metadata := .delete r.softDelete (plainParams r.pathParams)
      trace := traceOf r }

def compile (d : Dialect) (r : Descriptor) : Except CompileError Statement :=
  match r.table with
  | none | some "" => .error (.refused .missingTable)
  | some table =>
    match Method.ofText? r.method with
    | none => .error (.refused (.unsupportedMethod r.method))
    | some .get => select d r table
    | some .post => insert d r table
    | some .put | some .patch => update d r table
    | some .delete => delete d r table

end Statement

end RequestSql
