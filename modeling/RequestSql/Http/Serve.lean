import RequestSql.Http.BodyLimit
import RequestSql.Http.Compile
import RequestSql.Http.Route

/-!
# Serving a message

The limit on bodies comes before the route, and the route before the body is read.
-/

namespace RequestSql.Http

def answer (s : Service) (r : Request) (body : ByteArray) : Endpoint → Except Crash Reply
  | .compile => compile s r body
  | .dialects => .ok { status := 200, content := .json s.listing }
  | .health => .ok {
      status := 200
      content := .json (.map [
        (.text "status", .text "ok"), (.text "version", .text Service.version)]) }

def dispatch (s : Service) (r : Request) (body : ByteArray) : Except Crash Reply :=
  match Route.of r.method r.path with
  | .found e => answer s r body e
  | .wrongMethod allowed =>
    .ok { detailReply 405 (.text "Method Not Allowed") with allow := some allowed }
  | .elsewhere path => .ok {
      status := 307
      content := .text ""
      location := some (location r path) }
  | .missing => .ok (detailReply 404 (.text "Not Found"))

def serve (s : Service) (r : Request) : Except Crash Reply :=
  match BodyLimit.accept r with
  | .error e => .error e
  | .ok none => .ok BodyLimit.tooLarge
  | .ok (some body) => dispatch s r body

/-- What is sent: the reply, or the one that stands in after a crash. -/
def sent : Except Crash Reply → Reply
  | .ok reply => reply
  | .error _ => Crash.reply

end RequestSql.Http
