import FleetWatch.Status
import FleetWatch.Status.Token
import FleetWatch.Container.Observation
import FleetWatch.Warning

/-! # Aggregation

The decision table that turns the tokens of a resource's containers into one status. One pass over
the tokens notes which sorts there are, and the first rule that applies decides:

1. a degraded or restarting token: `degraded:unhealthy`
2. an exited one, and restarts were counted: `degraded:unhealthy`
3. a dead or removing one: `degraded:unhealthy`
4. a running and an exited one: `degraded:unhealthy`
5. a running and a starting or created one: `starting:unknown`
6. a paused one and no running one: `paused:unknown`
7. a starting or created one: `starting:unknown`
8. a running one: `running`, with the worst health
9. otherwise: `exited`
-/

namespace FleetWatch

/-- What has been seen among the tokens of a resource. -/
structure Tally where
  degraded : Bool := false
  restarting : Bool := false
  exited : Bool := false
  /-- A container is dead or is being removed. -/
  dead : Bool := false
  paused : Bool := false
  /-- A container is starting or has just been created. -/
  starting : Bool := false
  running : Bool := false
  /-- The health check of a running container fails. -/
  unhealthy : Bool := false
  /-- A running container has no health check, or one that has not passed yet. -/
  unknownHealth : Bool := false
  deriving DecidableEq, Repr

namespace Tally

/-- The tally with one more token. A check that has not passed yet is not a pass. -/
def record (t : Tally) : StatusToken → Tally
  | .degraded => { t with degraded := true }
  | .container .running health =>
      match health with
      | some .unhealthy => { t with running := true, unhealthy := true }
      | some .healthy => { t with running := true }
      | some .starting | none => { t with running := true, unknownHealth := true }
  | .container .restarting _ => { t with restarting := true }
  | .container .exited _ => { t with exited := true }
  | .container .dead _ | .container .removing _ => { t with dead := true }
  | .container .paused _ => { t with paused := true }
  | .container .created _ | .container .starting _ => { t with starting := true }

def ofTokens (tokens : List StatusToken) : Tally := tokens.foldl record {}

/-- The health of running containers taken together. A paused container beside them is not serving
and so does not count as healthy. -/
def health (t : Tally) : Qualifier :=
  if t.unhealthy then .unhealthy
  else if t.unknownHealth || t.paused then .unknown
  else .healthy

/-- The decision table. -/
def status (t : Tally) (maxRestarts : Int) : Status :=
  if t.degraded || t.restarting then .degraded
  else if t.exited && decide (0 < maxRestarts) then .degraded
  else if t.dead then .degraded
  else if t.running && t.exited then .degraded
  else if t.running && t.starting then .starting
  else if t.paused && !t.running then .paused
  else if t.starting then .starting
  else if t.running then .running t.health
  else .exited

end Tally

namespace Status

/-- A negative restart count is as good as none. -/
def clampRestarts (maxRestarts : Int) : Int := if maxRestarts < 0 then 0 else maxRestarts

/-- The status of containers with these tokens. Restarts count from one on. -/
def ofTokens (tokens : List StatusToken) (maxRestarts : Int) : Status :=
  (Tally.ofTokens tokens).status (clampRestarts maxRestarts)

def ofObservations (containers : List Observation) (maxRestarts : Int) : Status :=
  ofTokens (containers.map Observation.token) maxRestarts

/-- The status of containers given by status texts; a text without a token does not count. -/
def ofTexts (texts : List String) (maxRestarts : Int) : Status :=
  ofTokens (texts.filterMap StatusToken.parse?) maxRestarts

/-- What one use of the decision table with this restart count gives notice of. -/
def notices (maxRestarts : Int) : List Warning :=
  if maxRestarts < 0 then [.negativeRestarts maxRestarts] else []

end Status

end FleetWatch
