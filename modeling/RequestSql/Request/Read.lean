import RequestSql.Request.Coerce
import RequestSql.Request.Descriptor
import RequestSql.Value.Classify
import RequestSql.Value.Key

/-!
# Requests

`Request.read` reads a value of no fixed shape as a request, with all its faults in the order of the
fields. `Descriptor.ofRequest` normalizes a request: keywords in upper case, parameters filed as
scalars, the table resolved. Lists and maps are written out on the way, so a request is normalized
only if that can be done.
-/

namespace RequestSql

/-- One join as its sender wrote it. -/
structure JoinRequest where
  kind : Option String
  table : String
  asName : Option String
  condition : String
  deriving DecidableEq

/-- An ordering as its sender wrote it. -/
inductive OrderRequest where
  | text (expression : String)
  | list (expressions : List String)
  | column (name : Option String) (direction : Option String)
  deriving DecidableEq

/-- A request whose parts have the right shape. -/
structure Request where
  method : Option String
  table : Option String
  params : Fields Value
  query : Fields Value
  body : Fields Value
  joins : List JoinRequest
  select : List String
  orderBy : Option OrderRequest
  softDelete : Bool
  /-- All keys as the sender wrote them, also those that mean nothing here. -/
  keys : List String

namespace Request

def readJoin (path : List PathStep) (v : Value) : Reading JoinRequest :=
  match v with
  | .map es =>
    let place (name : String) := path ++ [.name name]
    Reading.ok JoinRequest.mk
      |>.ap (.optionalText (place "type") (Value.get? "type" es))
      |>.ap (.requiredText (place "table") v (Value.get? "table" es))
      |>.ap (.optionalText (place "alias") (Value.get? "alias" es))
      |>.ap (.requiredText (place "on") v (Value.get? "on" es))
  | _ => .fault (.notRecord "JoinInput") path v

/-- Reads the joins; missing or null ones are none. -/
def readJoins (path : List PathStep) : Option Value → Reading (List JoinRequest)
  | none | some .null => .ok []
  | some v => match Reading.items? v with
    | some vs => .each (fun i w => readJoin (path ++ [.index i]) w) 0 vs
    | none => .fault .notList path v

/-- Reads the columns; whatever counts as false stands for all columns. -/
def readSelect (path : List PathStep) : Option Value → Reading (List String)
  | none => .ok [wildcard]
  | some v => if v.isTruthy then .texts path v else .ok [wildcard]

def readOrderColumn (path : List PathStep) (v : Value) : Reading OrderRequest :=
  match v with
  | .map es =>
    Reading.ok OrderRequest.column
      |>.ap (.optionalText (path ++ [.name "column"]) (Value.get? "column" es))
      |>.ap (.optionalText (path ++ [.name "direction"]) (Value.get? "direction" es))
  | _ => .fault (.notRecord "OrderByInput") path v

/-- Reads an ordering: a text, a list of texts or a column. The empty text and the empty list are no
ordering. -/
def readOrderBy (path : List PathStep) : Option Value → Reading (Option OrderRequest)
  | none | some .null | some (.text "") | some (.list []) => .ok none
  | some v =>
    (Reading.firstOf [
      (Reading.text (path ++ [.name "str"]) v).map .text,
      (Reading.texts (path ++ [.name "list[str]"]) v).map .list,
      readOrderColumn (path ++ [.name "OrderByInput"]) v]).map some

/-- Only the truth value false switches soft deletion off. -/
def readSoftDelete : Option Value → Bool
  | some (.bool false) => false
  | _ => true

/-- The value under the first of two names that is there, with that name; the second name if
neither is. -/
def either (first second : String) (es : List (Value × Value)) : String × Option Value :=
  match Value.get? first es with
  | some v => (first, some v)
  | none => (second, Value.get? second es)

/-- Reads the keys of a request, all of which must be texts. -/
def readKeys (es : List (Value × Value)) : Reading (List String) :=
  .each (fun _ e => match e.1 with
    | .text s => .ok s
    | key => .fault .keyNotText [Reading.keyStep key] key) 0 es

def read (v : Value) : Reading Request :=
  match v with
  | .map es =>
    let get (name : String) := Value.get? name es
    let order := either "orderBy" "order_by" es
    Reading.ok Request.mk
      |>.ap (.optionalText [.name "method"] (get "method"))
      |>.ap (.optionalText [.name "table"] (get "table"))
      |>.ap (.fields [.name "params"] (get "params"))
      |>.ap (.fields [.name "query"] (get "query"))
      |>.ap (.fields [.name "body"] (get "body"))
      |>.ap (readJoins [.name "joins"] (get "joins"))
      |>.ap (readSelect [.name "select"] (get "select"))
      |>.ap (readOrderBy [.name order.1] order.2)
      |>.ap (.ok (readSoftDelete (either "softDelete" "soft_delete" es).2))
      |>.ap (readKeys es)
  | _ => .fault (.notRecord "RequestInput") [] v

/-- The text of an optional part; an empty text counts as missing. -/
def nonempty : Option String → Option String
  | none | some "" => none
  | some s => some s

/-- The table: the field itself, or else the path parameter of that name, as far as it counts as
true. -/
def resolvedTable (r : Request) : Option String :=
  match nonempty r.table with
  | some table => some table
  | none => match r.params.get? "table" with
    | some v => if v.isTruthy then some v.display else none
    | none => none

/-- The table has a display, if it is a path parameter. -/
def hasWritableTable (r : Request) : Bool :=
  match nonempty r.table, r.params.get? "table" with
  | none, some v => !(v.isTruthy && v.hasLongInteger)
  | _, _ => true

/-- Whatever is written out when the request is normalized can be: the table, and the parameters and
fields that are filed as their displays. -/
def isWritable (r : Request) : Bool :=
  r.hasWritableTable && [r.params, r.query, r.body].all fun fs => fs.values.all Value.isFileable

end Request

def scalarParams (params : Fields Value) : Fields Scalar := params.map Scalar.ofValue

def Join.ofRequest (j : JoinRequest) : Join where
  table := j.table
  condition := j.condition
  kind := .read j.kind
  asName := j.asName

/-- The ordering that a request asks for; by `id` where it names no column. -/
def OrderBy.ofRequest : OrderRequest → OrderBy
  | .text e => .text e
  | .list es => .list es
  | .column name direction => .column ((Request.nonempty name).getD "id") (.read direction)

def Descriptor.ofRequest (r : Request) : Descriptor where
  method := Text.upper ((Request.nonempty r.method).getD "GET")
  table := r.resolvedTable
  pathParams := scalarParams r.params
  queryParams := scalarParams r.query
  body := scalarParams r.body
  joins := r.joins.map .ofRequest
  columns := r.select
  orderBy := r.orderBy.map .ofRequest
  softDelete := r.softDelete
  inputKeys := r.keys

/-- Reads a value as a request and normalizes it. A value that is a request but cannot be written
out is told as a whole, with no place in it. -/
def Descriptor.read (v : Value) : Reading Descriptor :=
  match Request.read v with
  | .faulty faults => .faulty faults
  | .ok r => if r.isWritable then .ok (.ofRequest r) else .fault .longInteger [] v

end RequestSql
