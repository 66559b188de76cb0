import RequestSql.Http.Host
import RequestSql.Http.Message

/-!
# Routes

The endpoints with their paths and methods, and where a message goes: to an endpoint, to another
place, or nowhere.
-/

namespace RequestSql.Http

/-- The endpoints. -/
inductive Endpoint where
  | compile | dialects | health
  deriving DecidableEq, Repr

namespace Endpoint

def path : Endpoint → String
  | .compile => "/compile"
  | .dialects => "/dialects"
  | .health => "/health"

def method : Endpoint → String
  | .compile => "POST"
  | .dialects | .health => "GET"

/-- The endpoints in the order in which they are tried. -/
def all : List Endpoint := [.compile, .dialects, .health]

/-- The endpoint of a path, which may end in a line break. -/
def ofPath? (path : String) : Option Endpoint :=
  all.find? fun e => path = e.path || path = e.path ++ "\n"

end Endpoint

/-- Where a message goes. -/
inductive Route where
  | found (e : Endpoint)
  /-- The endpoint has another method. -/
  | wrongMethod (allowed : String)
  /-- The path without its closing slashes is routed. -/
  | elsewhere (path : String)
  | missing
  deriving DecidableEq, Repr

def withoutSlash (path : String) : String :=
  String.ofList (path.toList.reverse.dropWhile (· == '/')).reverse

def Route.of (method path : String) : Route :=
  match Endpoint.ofPath? path with
  | some e => if method = e.method then .found e else .wrongMethod e.method
  | none =>
    if path.endsWith "/" && (Endpoint.ofPath? (withoutSlash path)).isSome
    then .elsewhere (withoutSlash path)
    else .missing

/-- The characters that stand for themselves in a location. -/
def isPlainInLocation (b : UInt8) : Bool :=
  let c := Char.ofNat b.toNat
  b < 0x80 && (c.isAlphanum || "_.-~:/%#?=@[]!$&'()*+,;".toList.contains c)

/-- A byte of a location, as two digits after a percent sign unless it stands for itself. -/
def locationByte (b : UInt8) : List Char :=
  if isPlainInLocation b then [Char.ofNat b.toNat]
  else '%' :: (Text.hex 2 b.toNat).map Char.toUpper

/-- The host that the service is known by. -/
def defaultHost : String := "test"

def Request.host (r : Request) : String :=
  match r.header? "host" with
  | some header => if Host.isValid header then header else defaultHost
  | none => defaultHost

/-- The location of a path on the host of a message, with its query. The characters of a query are
its bytes. -/
def location (r : Request) (path : String) : String :=
  let query := if r.query = "" then [] else '?' :: r.query.toList
  String.ofList ((("http://" ++ r.host ++ path).toUTF8.toList ++
    query.map fun c => UInt8.ofNat c.toNat).flatMap locationByte)

end RequestSql.Http
