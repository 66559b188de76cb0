import RequestSql.Http.Serve
import RequestSql.Settings.Basic

/-!
# Sessions

A session runs steps on one service. A step changes the service or asks something of it, and a step
that fails changes nothing.
-/

namespace RequestSql

/-- A service, and whether an application serves it over HTTP. -/
structure Session where
  service : Service := {}
  hasApp : Bool := false

/-- The session before any step: the dialects known from the start, no engine and no application. -/
def Session.start (tools : Tools) : Session where
  service := { tools }

namespace Session

/-- One step. -/
inductive Step where
  /-- Asks for the registered names. -/
  | available
  | lookup (name : Value)
  | register (d : Dialect)
  | identifier (name : String) (dialect : Value)
  /-- Compiles for a dialect, without the engine. -/
  | compile (request dialect : Value)
  /-- Puts an engine in force. -/
  | start (engine : Engine)
  /-- Puts no engine in force. -/
  | stop
  /-- Compiles with the engine in force. -/
  | run (request dialect : Value)
  | check (sql dialect : String)
  | listing
  /-- Makes an application with its engine from settings. -/
  | launch (given : Fields Value)
  | http (r : Http.Request)

/-- What a step answers. -/
inductive Answer where
  | names (xs : List String)
  | dialect (d : Dialect)
  | sql (s : String)
  | statement (s : Statement)
  | result (r : Pipeline.Result)
  /-- The default dialect after a change of engine. -/
  | engine (dialect : String)
  | findings (fs : List Finding)
  | listing (v : Value)
  /-- The default dialect of a new application. -/
  | app (dialect : String)
  | http (reply : Except Http.Crash Http.Reply)

/-- Why a step fails. -/
inductive Error where
  | lookup (e : Registry.LookupError)
  | pipeline (e : Pipeline.Error)
  | settings (faults : List Fault)
  /-- No engine is in force. -/
  | noEngine
  /-- There is no application yet. -/
  | noApp

def engineOf (s : Settings) : Engine := { validate := s.validate, dialect := s.dialect }

/-- The session after a step, if the step changes it and does not fail. -/
def next (s : Session) : Step → Session
  | .register d => { s with service := { s.service with registry := s.service.registry.register d } }
  | .start engine => { s with service := { s.service with engine := some engine } }
  | .stop => { s with service := { s.service with engine := none } }
  | .launch given => match Settings.read { given } with
    | .ok settings => {
        service := { s.service with engine := some (engineOf settings) }
        hasApp := true }
    | .faulty _ => s
  | _ => s

def answer (s : Session) : Step → Except Error Answer
  | .available => .ok (.names s.service.registry.available)
  | .lookup name => ((s.service.registry.find name).map .dialect).mapError .lookup
  | .register d => .ok (.names (s.service.registry.register d).available)
  | .identifier name dialect =>
    ((s.service.registry.find dialect).map fun d => .sql (d.identifier name)).mapError .lookup
  | .compile request dialect =>
    ((Pipeline.compile s.service.registry false request dialect s.service.tools.parse).map fun r =>
      .statement r.statement).mapError .pipeline
  | .start engine => .ok (.engine engine.dialect)
  | .stop => .ok (.engine defaultDialect)
  | .run request dialect => match s.service.engine with
    | none => .error .noEngine
    | some engine =>
      ((Pipeline.compile s.service.registry engine.validate request dialect
        s.service.tools.parse).map .result).mapError .pipeline
  | .check sql dialect => .ok (.findings (RequestSql.check s.service.tools.parse sql dialect))
  | .listing => .ok (.listing s.service.listing)
  | .launch given => match Settings.read { given } with
    | .ok settings => .ok (.app settings.dialect)
    | .faulty faults => .error (.settings faults)
  | .http r => if s.hasApp then .ok (.http (Http.serve s.service r)) else .error .noApp

/-- The session after some steps. -/
def after (s : Session) (steps : List Step) : Session := steps.foldl next s

def answers (s : Session) : List Step → List (Except Error Answer)
  | [] => []
  | step :: steps => s.answer step :: answers (s.next step) steps

end Session

end RequestSql
