import NodePressure.Telemetry.Basic
import NodePressure.Telemetry.Exposition
import NodePressure.Telemetry.Form

/-!
# NodePressure.Agent.Router - answering probes and scrapers

Three paths are known and can be read; what follows a path is not looked at, nor are the scheme and
the host that an address may name before it. A component that is unhealthy makes the agent fail its
probes, one that is degraded does not.
-/

namespace NodePressure

/-- What an answer holds. -/
inductive Body
  | empty
  | json (j : Json)
  | lines (ls : List String)
  deriving Repr

/-- An answer. -/
structure Response where
  code : Nat
  contentType : Option String
  /-- The methods that a path allows, if the one asked for is not among them. -/
  allow : Option String
  body : Body
  deriving Repr

/-- A path that can be read. -/
inductive Route
  | health
  | readiness
  | metrics
  deriving DecidableEq, Repr

namespace Route

/-- All routes. -/
def all : List Route := [health, readiness, metrics]

/-- The path of a route. -/
def path : Route → String
  | health => "/healthz"
  | readiness => "/readyz"
  | metrics => "/metrics"

/-- Whether a character may stand in the scheme of an address. -/
def isSchemeChar (c : Char) : Bool :=
  c.isAlphanum || c == '+' || c == '-' || c == '.'

/-- Whether a character ends the part of an address before it: the host or the path. -/
def endsPart (c : Char) : Bool :=
  c == '/' || c == '?' || c == '#'

/-- What an address names at its host: all of it if it begins with the path, and else what follows
the scheme and the host. -/
def place : List Char → List Char
  | '/' :: r => '/' :: r
  | address =>
    match address.dropWhile isSchemeChar with
    | ':' :: '/' :: '/' :: r => r.dropWhile (!endsPart ·)
    | _ => []

/-- The route of an address, which may have a query or a fragment behind its path. -/
def ofAddress? (address : String) : Option Route :=
  let bare := String.ofList ((place address.toList).takeWhile fun c => c != '?' && c != '#')
  all.find? (·.path == bare)

end Route

/-- The words for a code of an answer. -/
def reasonPhrase (code : Nat) : String :=
  match code with
  | 200 => "OK"
  | 404 => "Not Found"
  | 405 => "Method Not Allowed"
  | 503 => "Service Unavailable"
  | _ => ""

namespace Telemetry

/-- The code of a probe. -/
def probeCode (passed : Bool) : Nat :=
  if passed then 200 else 503

/-- The answer of a route to a request that reads it. -/
def read (t : Telemetry) : Route → Response
  | .health =>
    let c := t.health.checkup
    ⟨probeCode c.status.isOperational, some "application/json", none, .json c.toJson⟩
  | .readiness =>
    let r := t.health.readiness
    ⟨probeCode r.ready, some "application/json", none, .json r.toJson⟩
  | .metrics => ⟨200, some "text/plain; charset=utf-8", none, .lines t.metrics.exposition⟩

/-- The answer to a request. -/
def answer (t : Telemetry) (method address : String) : Response :=
  match Route.ofAddress? address with
  | none => ⟨404, none, none, .empty⟩
  | some r =>
    if method == "GET" then t.read r
    else if method == "HEAD" then { t.read r with body := .empty }
    else ⟨405, none, some "GET,HEAD", .empty⟩

end Telemetry

end NodePressure
