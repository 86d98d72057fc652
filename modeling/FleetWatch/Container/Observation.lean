import FleetWatch.Status.Token

/-! # Observed containers

One container as it was seen in one collection cycle. For exclusion, and for splitting a service
into its parts, a container goes by its compose service, or by its own name when it has none.
-/

namespace FleetWatch

/-- Container labels: names with their values, each name once. -/
abbrev Labels := List (String × String)

namespace Labels

def get? (labels : Labels) (name : String) : Option String := labels.lookup name

/-- The labels with one of them set; it takes the place of an older value. -/
def set (labels : Labels) (name value : String) : Labels :=
  labels.filter (·.1 ≠ name) ++ [(name, value)]

/-- Labels from a list in which a later value of a name wins. -/
def ofList (pairs : List (String × String)) : Labels :=
  pairs.foldl (fun labels (name, value) => labels.set name value) []

end Labels

/-- The label that carries a container's compose service. -/
def composeServiceLabel : String := "com.docker.compose.service"

/-- The label that maps a container to the application or service it belongs to. -/
def resourceLabel : String := "fleet.resource"

/-- One container as seen in one collection cycle. -/
structure Observation where
  name : String
  /-- The compose service the container belongs to. -/
  service : Option String := none
  state : Lifecycle
  /-- None when no health check is configured. -/
  health : Option Health := none
  exitCode : Option Int := none
  restartCount : Option Nat := none
  labels : Labels := []
  deriving DecidableEq, Repr

namespace Observation

/-- What the container contributes to the decision table. -/
def token (c : Observation) : StatusToken := .container c.state c.health

/-- The name a container goes by: its compose service, or its own name. -/
def exclusionKey (c : Observation) : String := c.service.getD c.name

def isExcluded (c : Observation) (excluded : List String) : Bool :=
  excluded.contains c.exclusionKey

/-- The container with the given compose service, which its labels carry too. -/
def withService (c : Observation) (service : String) : Observation :=
  { c with service := some service, labels := c.labels.set composeServiceLabel service }

end Observation

/-- The largest of the counts that are known, zero when none is. -/
def maxCount (counts : List (Option Nat)) : Nat := (counts.filterMap id).foldl max 0

def maxRestarts (containers : List Observation) : Nat :=
  maxCount (containers.map Observation.restartCount)

end FleetWatch
