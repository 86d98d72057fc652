import FleetWatch.Status.Aggregate

/-! # Evaluation under exclusions

A resource's status with regard to the containers that are excluded from health checks. The
containers that are not excluded decide. When every container is excluded, the excluded ones are
aggregated and the result is tagged, so that it is shown but never alerts.

The same policy is given for containers that were observed and for containers that were reported
with a status text.
-/

namespace FleetWatch

/-- A container that was reported with a status text. -/
structure NamedStatus where
  /-- The name the container goes by: its compose service, or its own name. -/
  name : String
  status : String
  restartCount : Option Nat := none
  deriving DecidableEq, Repr

def maxReportedRestarts (statuses : List NamedStatus) : Nat :=
  maxCount (statuses.map NamedStatus.restartCount)

namespace Status

/-- The tagged status of the observed containers that are excluded, and of no others. -/
def ofExcluded (containers : List Observation) (excluded : List String) : Status :=
  match containers.filter (·.isExcluded excluded) with
  | [] => unknownExcluded
  | subset => (ofObservations subset (maxRestarts subset)).forExcluded

/-- The tagged status of excluded containers given by status texts. -/
def ofExcludedTexts (texts : List String) (maxRestarts : Int) : Status :=
  match texts.filter fun t => (StatusToken.parse? t).isSome with
  | [] => unknownExcluded
  | known => (ofTexts known maxRestarts).forExcluded

/-- What the evaluation of excluded texts gives notice of: the restart count is looked at only
when some text has a token. -/
def excludedNotices (texts : List String) (maxRestarts : Int) : List Warning :=
  if texts.any fun t => (StatusToken.parse? t).isSome then notices maxRestarts else []

/-- The status of a resource from its observed containers. -/
def evaluate (containers : List Observation) (excluded : List String) : Status :=
  match containers.filter fun c => !c.isExcluded excluded with
  | [] => if containers.isEmpty then exited else ofExcluded containers excluded
  | counted => ofObservations counted (maxRestarts counted)

/-- The status of a resource from its reported containers. -/
def evaluateReported (statuses : List NamedStatus) (excluded : List String) : Status :=
  match statuses.filter fun s => !excluded.contains s.name with
  | [] =>
      if statuses.isEmpty then exited
      else ofExcludedTexts (statuses.map NamedStatus.status) (maxReportedRestarts statuses)
  | counted => ofTexts (counted.map NamedStatus.status) (maxReportedRestarts counted)

/-- The status of a whole from the statuses of its named parts. The parts that are not excluded
decide; when all are excluded, those with a known base are evaluated as excluded containers. -/
def rollup (parts : List (String × Status)) (excluded : List String) : Status :=
  match parts.filter fun (name, _) => !excluded.contains name with
  | [] =>
      if parts.isEmpty then exited
      else ofExcludedTexts ((parts.filter (·.2.base ≠ .unknown)).map fun (_, s) => s.text) 0
  | counted => ofTexts (counted.map fun (_, s) => s.text) 0

end Status

end FleetWatch
