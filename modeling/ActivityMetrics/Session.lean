import ActivityMetrics.Metric.Catalog
import ActivityMetrics.Settings

/-!
# Sessions

A warehouse is reached through connections. A warehouse in memory has a single connection; one in a
file has two, a connection for answers and another for records. A computation that leaves the
calendar brings its connection down: the request is refused, and so is everything that is asked over
the connection from then on. The records stay as they are.

A request that can be refused without records, because of an unknown metric or a value that a
setting cannot have, is refused before its connection is used.
-/

namespace ActivityMetrics

/-- The purpose of a connection. -/
inductive Purpose where
  /-- Answers of metrics and settings. -/
  | answers
  /-- Loading records and looking at them. -/
  | records
deriving DecidableEq

/-- A warehouse, as it is reached through connections. -/
structure Session where
  /-- The warehouse. -/
  warehouse : Warehouse
  /-- One connection serves both purposes. -/
  shared : Bool
  /-- The purposes whose connection is down. -/
  down : List Purpose := []

namespace Session

/-- A session with a warehouse in memory. -/
def inMemory (w : Warehouse) : Session :=
  { warehouse := w, shared := true }

/-- A session with a warehouse in a file. -/
def inFile (w : Warehouse) : Session :=
  { warehouse := w, shared := false }

/-- The connection for a purpose is up. -/
def isUp (s : Session) (p : Purpose) : Bool :=
  if s.shared then s.down.isEmpty else !s.down.contains p

/-- Makes a request over the connection for a purpose. -/
def serve {α : Type} (s : Session) (p : Purpose) (request : Warehouse → Warehouse.Loaded α) :
    Outcome α × Session :=
  if s.isUp p then
    match request s.warehouse with
    | (.error .beyondCalendar, _) =>
      (.error (.database .connectionClosed), { s with down := p :: s.down })
    | (result, w) => (result, { s with warehouse := w })
  else (.error (.database .connectionClosed), s)

/-- Loads records. -/
def load (s : Session) (step : LoadStep) : Outcome (Option Int) × Session :=
  s.serve .records fun w => step.perform w

/-- Looks at records. -/
def look {α : Type} (s : Session) (question : Warehouse → Outcome α) : Outcome α × Session :=
  s.serve .records fun w => (question w, w)

/-- Asks for something that is computed from the records. -/
def ask {α : Type} (s : Session) (question : Warehouse → Outcome α) : Outcome α × Session :=
  s.serve .answers fun w => (question w, w)

/-- Asks something of the metric of a name. -/
def askMetric {α : Type} (s : Session) (name : String)
    (question : Metric → Warehouse → Outcome α) : Outcome α × Session :=
  match Metric.ofName name with
  | .ok m => s.ask (question m)
  | .error e => (.error e, s)

/-- Stores a setting that passes the check. -/
def store (s : Session) (key value : String) : Outcome Unit × Session :=
  match Settings.check key value with
  | .ok () => s.serve .records fun w => Settings.store w key value
  | .error e => (.error e, s)

end Session

end ActivityMetrics
