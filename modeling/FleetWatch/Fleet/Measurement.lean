import FleetWatch.Store.Key
import FleetWatch.Status

/-! # Measurements

What the service counts about itself, and the series that the counts add up to. A series is a name
with labels. Most series only grow; the number of tracked resources is set.
-/

namespace FleetWatch

/-- A way of collecting statuses. -/
inductive Collector where
  | ssh
  | agent
  | complex
  deriving DecidableEq, Repr

def Collector.text : Collector → String
  | ssh => "ssh"
  | agent => "agent"
  | complex => "complex"

/-- How a collection cycle ended. -/
inductive Outcome where
  | success
  /-- Some server could not be inspected. -/
  | incomplete
  deriving DecidableEq, Repr

def Outcome.text : Outcome → String
  | success => "success"
  | incomplete => "partial"

/-- What became of an agent's report. -/
inductive Reception where
  | accepted
  | unauthorized
  | unknownServer
  deriving DecidableEq, Repr

/-- The word for what became of a report. -/
def Reception.text : Reception → String
  | accepted => "accepted"
  | unauthorized => "unauthorized"
  | unknownServer => "unknown_server"

/-- Something the service counts. -/
inductive Measurement where
  /-- A collection cycle has ended. -/
  | collected (collector : Collector) (outcome : Outcome)
  /-- A status has been recorded. -/
  | recorded (kind : ResourceKind) (base : Base)
  /-- A report has come in. -/
  | received (reception : Reception)
  /-- The store holds so many records. -/
  | tracked (count : Nat)
  deriving DecidableEq, Repr

/-- A series of counts: a name and labels in the order of their names. -/
structure Series where
  name : String
  labels : List (String × String)
  deriving DecidableEq, Repr

def Series.text (s : Series) : String :=
  let labels := s.labels.map fun (name, value) => name ++ "=" ++ value
  s.name ++ "\x7b" ++ String.intercalate "," labels ++ "\x7d"

namespace Measurement

/-- The series that a measurement adds one to. -/
def counted : Measurement → List Series
  | collected collector outcome =>
      [⟨"fleet_status_collections_total",
        [("collector", collector.text), ("outcome", outcome.text)]⟩,
       ⟨"fleet_status_collection_duration_seconds", [("collector", collector.text)]⟩]
  | recorded kind base =>
      [⟨"fleet_status_resource_status_total", [("base", base.text), ("kind", kind.text)]⟩]
  | received reception =>
      [⟨"fleet_status_agent_reports_total", [("outcome", reception.text)]⟩]
  | tracked _ => []

/-- The series that shows how many records the store holds. -/
def trackedSeries : Series := ⟨"fleet_status_tracked_resources", []⟩

/-- The number of records that was measured last, in a log that starts with the latest. -/
def lastTracked? (log : List Measurement) : Option Nat :=
  log.findSome? fun
    | tracked count => some count
    | _ => none

/-- The value of every series that a log touches. -/
def totals (log : List Measurement) : List (Series × Nat) :=
  let counts := log.flatMap counted
  (counts.eraseDups.map fun series => (series, counts.count series)) ++
    ((lastTracked? log).map fun count => (trackedSeries, count)).toList

end Measurement

end FleetWatch
