import RequestSql.Envelope
import RequestSql.Http.Body
import RequestSql.Http.Message
import RequestSql.Http.Query
import RequestSql.Json.Write
import RequestSql.Service
import RequestSql.Settings.Coerce

/-!
# Compiling over HTTP

A body is read as a request and compiled by the engine in force. Faults of the query and of the body
are told together; an unknown dialect and a refusal give an envelope; a statement is told with all
that is known about it.
-/

namespace RequestSql

namespace Value

mutual

/-- A part of the value is a number that is not finite. -/
def hasNonFinite : Value → Bool
  | .float x => !x.isFinite
  | .list vs | .tuple vs => anyNonFinite vs
  | .map es => anyNonFiniteEntry es
  | _ => false

def anyNonFinite : List Value → Bool
  | [] => false
  | v :: vs => hasNonFinite v || anyNonFinite vs

/-- The value of an entry has a part that is not finite. -/
def anyNonFiniteEntry : List (Value × Value) → Bool
  | [] => false
  | (_, v) :: es => hasNonFinite v || anyNonFiniteEntry es

end

mutual

/-- The value without the entries whose names mark them as internal. -/
def withoutInternal : Value → Value
  | .list vs => .list (itemsWithoutInternal vs)
  | .tuple vs => .tuple (itemsWithoutInternal vs)
  | .map es => .map (entriesWithoutInternal es)
  | v => v

def itemsWithoutInternal : List Value → List Value
  | [] => []
  | v :: vs => withoutInternal v :: itemsWithoutInternal vs

def entriesWithoutInternal : List (Value × Value) → List (Value × Value)
  | [] => []
  | (k, v) :: es =>
    let rest := entriesWithoutInternal es
    match k with
    | .text name => if name.startsWith "_sa" then rest else (k, withoutInternal v) :: rest
    | k => (k, withoutInternal v) :: rest

end

/-- A number that is not finite is null in a reply. -/
def finiteOrNull (v : Value) : Value :=
  match v with
  | .float x => if x.isFinite then v else .null
  | v => v

end Value

namespace Http

def textList (xs : List String) : Value := .list (xs.map .text)

def paramMap (ps : Fields Value) : Value :=
  .map (ps.entries.map fun e => (.text e.1, e.2.finiteOrNull))

def metadataMap : Metadata → Value
  | .select shortName ps joins filter ordering => .map [
      (.text "table_alias", .text shortName), (.text "where_params", paramMap ps),
      (.text "has_joins", .bool joins), (.text "has_where", .bool filter),
      (.text "has_order_by", .bool ordering)]
  | .insert columns count => .map [
      (.text "columns", textList columns), (.text "value_count", .int count)]
  | .update fields ps => .map [
      (.text "update_fields", textList fields), (.text "where_params", paramMap ps)]
  | .delete soft ps => .map [
      (.text "delete_type", .text (if soft then "soft" else "hard")),
      (.text "where_params", paramMap ps)]

def traceMap (t : Trace) : Value :=
  .map [(.text "input_keys", textList t.inputKeys), (.text "path_params", paramMap t.pathParams),
    (.text "query_params", paramMap t.queryParams), (.text "body_keys", textList t.bodyKeys),
    (.text "has_joins", .bool t.hasJoins), (.text "select_columns", textList t.columns)]

/-- A result as a map, with its statement laid out for reading if that is wanted. -/
def resultMap (pretty : Option String) (r : Pipeline.Result) : Value :=
  let s := r.statement
  .map [(.text "sql", .text s.sql), (.text "pretty_sql", pretty.elim .null .text),
    (.text "operation", .text s.operation.text), (.text "method", .text s.method),
    (.text "table", .text s.table), (.text "dialect", .text r.dialect),
    (.text "metadata", metadataMap s.metadata), (.text "debug", traceMap s.trace),
    (.text "warnings", textList r.warnings), (.text "sql_valid", .bool r.isValid)]

def stepValue : PathStep → Value
  | .name s => .text s
  | .index n => .int n

def faultMap (f : Fault) : Value :=
  .map [(.text "type", .text f.kind.code), (.text "loc", .list (f.path.map stepValue)),
    (.text "msg", .text f.kind.message), (.text "input", f.input.withoutInternal)]

/-- The reply with a JSON value, if the value has a text that can be encoded. The block stands in
for halves of pairs, if there are any. -/
def encodedReply (block : Option Text.HalfBlock) (status : Nat) (v : Value) : Except Crash Reply :=
  if v.hasNonFinite then .error .notFinite
  else match block.bind fun block => Text.Halves.of? block (Json.written v) with
    | some h => .error (.halves h)
    | none => .ok { status, content := .json v }

def detailMap (detail : Value) : Value := .map [(.text "detail", detail)]

/-- The reply with details that can always be encoded. -/
def detailReply (status : Nat) (detail : Value) : Reply where
  status := status
  content := .json (detailMap detail)

def faultsReply (block : Option Text.HalfBlock) (faults : List Fault) : Except Crash Reply :=
  encodedReply block 422 (detailMap (.list (faults.map faultMap)))

def bodyReply : Body.Failure → Reply
  | .malformed problem position => detailReply 422 (.list [.map [
      (.text "type", .text "json_invalid"),
      (.text "loc", .list [.text "body", .int position]),
      (.text "msg", .text "JSON decode error"), (.text "input", .map []),
      (.text "ctx", .map [(.text "error", .text problem.message)])]])
  | .unreadable => detailReply 400 (.text "There was an error parsing the body")

def envelopeReply (block : Option Text.HalfBlock) (e : Envelope) : Except Crash Reply :=
  encodedReply block 400 e.toValue

/-- The envelope of a failed lookup names the dialects that there are. -/
def lookupEnvelope (registry : Registry) (e : Registry.LookupError) : Envelope :=
  .ofError {
    code := Registry.unsupportedCode
    message := e.message
    details := .map [(.text "available", textList registry.available)] }

def compileEnvelope : CompileError → Envelope
  | .refused r => .ofRefusal r
  | e@(.unknownOrdering _) => .ofRefusal (.other e.message)

/-- What the query asks for. -/
structure Options where
  /-- The dialect to compile for; an empty name is none. -/
  dialect : Option String
  /-- The statement is also wanted laid out for reading. -/
  pretty : Bool

def Options.read (query : String) : Reading Options :=
  let pretty := match Query.value? query "pretty" with
    | none => .ok false
    | some s => .bool [.name "query", .name "pretty"] (.text s)
  (Reading.ok (Options.mk (RequestSql.Request.nonempty (Query.value? query "dialect")))).ap pretty

/-- A fault of a request as a fault of the body that holds it, where any object with the right
fields would do. -/
def inBody (f : Fault) : Fault where
  kind := match f.kind with
    | .notRecord _ => .notAttributes
    | kind => kind
  path := .name "body" :: f.path
  input := f.input

/-- A statement laid out for reading, if that is wanted. -/
def laidOut (format : Formatter) (pretty : Bool) (sql : String) : Except Crash (Option String) :=
  if pretty then ((format sql).map some).mapError .layout else .ok none

def resultReply (format : Formatter) (block : Option Text.HalfBlock) (pretty : Bool)
    (r : Pipeline.Result) : Except Crash Reply :=
  match laidOut format pretty r.statement.sql with
  | .error e => .error e
  | .ok layout =>
    let v := resultMap layout r
    match block.bind v.halves? with
    | some h => .error (.halvesInside h)
    | none => .ok { status := 200, content := .json v }

/-- The first key of a map that has halves of pairs. -/
def brokenKey? (block : Text.HalfBlock) : Value → Option Value
  | .map es => (es.map Prod.fst).find? fun key => (key.halves? block).isSome
  | _ => none

/-- The entries of a map with lists and maps filed as their display where they have halves. -/
def fileParams (block : Text.HalfBlock) : Value → Value
  | .map es => .map (es.map fun (key, v) => (key, v.fileHalves block))
  | v => v

/-- A request whose parameters are filed where they have halves. -/
def fileRequest (block : Text.HalfBlock) : Value → Value
  | .map es => .map (es.map fun (key, v) => match key with
    | .text "params" | .text "query" | .text "body" => (key, fileParams block v)
    | key => (key, v))
  | v => v

/-- Reads the value of a body as a request. A key with halves of pairs hides all other faults. -/
def readRequest : Option Body.Parsed → Reading RequestSql.Request
  | none => .fault .missing [.name "body"] .null
  | some { value, block := none } => (RequestSql.Request.read value).mapFaults inBody
  | some { value, block := some block } => match brokenKey? block value with
    | some key => .fault .notUnicode [.name "body"] key
    | none => (RequestSql.Request.read (fileRequest block value)).mapFaults inBody

/-- The reply to a request. No integer of a body is too long to be written out, so the request is
normalized without further ado. -/
def compileReply (tools : Tools) (block : Option Text.HalfBlock) (registry : Registry)
    (engine : Engine) (options : Options) (r : RequestSql.Request) : Except Crash Reply :=
  let name := options.dialect.getD engine.dialect
  match Pipeline.compileDescriptor registry engine.validate (.ofRequest r) (.text name)
    tools.parse with
  | .ok result => resultReply tools.format block options.pretty result
  | .error (.invalid faults) => faultsReply block faults
  | .error (.lookup e) => envelopeReply block (lookupEnvelope registry e)
  | .error (.compile e) => envelopeReply block (compileEnvelope e)

def compile (s : Service) (r : Http.Request) (bytes : ByteArray) : Except Crash Reply :=
  match Body.read (r.header? "content-type") bytes with
  | .error e => .ok (bodyReply e)
  | .ok body => match s.engine with
    | none => .error .noPipeline
    | some engine =>
      let block := body.bind Body.Parsed.block
      match (Reading.ok Prod.mk).ap (Options.read r.query) |>.ap (readRequest body) with
      | .faulty faults => faultsReply block faults
      | .ok (options, request) => compileReply s.tools block s.registry engine options request

end Http

end RequestSql
