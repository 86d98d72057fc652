import FleetWatch.Text.LetterCase

/-! # States of a container

The lifecycle phase of a container and the result of its health check, with the words that the
container engine uses for them. Both are read without regard to ASCII case and surrounding white
space.
-/

namespace FleetWatch

/-- The runtime phase of a container. -/
inductive Lifecycle where
  | running
  | restarting
  | exited
  | dead
  | removing
  | paused
  | created
  | starting
  deriving DecidableEq, Repr

/-- The result of a health check. -/
inductive Health where
  | healthy
  | unhealthy
  /-- The check has not passed yet and is still within its grace period. -/
  | starting
  deriving DecidableEq, Repr

/-- A word as it is compared: trimmed, with its ASCII letters in lower case. -/
def normalWord (raw : String) : String :=
  String.ofList (Text.lowerAscii (Text.trimChars raw.toList))

namespace Lifecycle

def text : Lifecycle → String
  | running => "running"
  | restarting => "restarting"
  | exited => "exited"
  | dead => "dead"
  | removing => "removing"
  | paused => "paused"
  | created => "created"
  | starting => "starting"

def ofText? : String → Option Lifecycle
  | "running" => some running
  | "restarting" => some restarting
  | "exited" => some exited
  | "dead" => some dead
  | "removing" => some removing
  | "paused" => some paused
  | "created" => some created
  | "starting" => some starting
  | _ => none

/-- Reads a phase, whatever its case and the white space around it. -/
def parse? (raw : String) : Option Lifecycle := ofText? (normalWord raw)

theorem ofText?_text (s : Lifecycle) : ofText? s.text = some s := by cases s <;> rfl

end Lifecycle

namespace Health

def text : Health → String
  | healthy => "healthy"
  | unhealthy => "unhealthy"
  | starting => "starting"

def ofText? : String → Option Health
  | "healthy" => some healthy
  | "unhealthy" => some unhealthy
  | "starting" => some starting
  | _ => none

/-- Reads a check result, whatever its case and the white space around it. Any other word, `none`
among them, means that no health check is configured. -/
def parse? (raw : String) : Option Health := ofText? (normalWord raw)

theorem ofText?_text (h : Health) : ofText? h.text = some h := by cases h <;> rfl

end Health

end FleetWatch
