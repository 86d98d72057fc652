import FleetWatch.Container.Observation
import FleetWatch.Json.Reader
import FleetWatch.Warning

/-! # Inspected containers

Reading the output of the container engine's `inspect` command: an array of records, of which a few
fields matter. Every field may be missing. A record without a usable lifecycle state is left out
with a warning instead of failing the whole output. Output that is all white space lists nothing.
-/

namespace FleetWatch

open Json (Reader Fault)
open Json.Reader (Field)

namespace Inspect

/-- The health check part of a record. -/
structure HealthPart where
  status : Option (Option String) := none

/-- The state part of a record. -/
structure StatePart where
  status : Option (Option String) := none
  health : Option (Option HealthPart) := none
  exitCode : Option (Option Int) := none

/-- The configuration part of a record. -/
structure ConfigPart where
  labels : Option (Option Labels) := none

/-- One record of the output, with what of it has been read. -/
structure Record where
  name : Option String := none
  state : Option StatePart := none
  restartCount : Option (Option Nat) := none
  config : Option (Option ConfigPart) := none

def healthPart : Reader HealthPart :=
  Reader.record
    [⟨"Status", (·.status.isSome), fun h => do
      return { h with status := some (← Reader.optional Reader.string) }⟩]
    {} some

def statePart : Reader StatePart :=
  Reader.record
    [⟨"Status", (·.status.isSome), fun s => do
      return { s with status := some (← Reader.optional Reader.string) }⟩,
     ⟨"Health", (·.health.isSome), fun s => do
      return { s with health := some (← Reader.optional healthPart) }⟩,
     ⟨"ExitCode", (·.exitCode.isSome), fun s => do
      return { s with exitCode := some (← Reader.optional (Reader.integer minInt64 maxInt64)) }⟩]
    {} some

def configPart : Reader ConfigPart :=
  Reader.record
    [⟨"Labels", (·.labels.isSome), fun c => do
      return { c with labels := some (← Reader.optional (Reader.dictionary Reader.string)) }⟩]
    {} some

def record : Reader Record :=
  Reader.record
    [⟨"Name", (·.name.isSome), fun r => do return { r with name := some (← Reader.string) }⟩,
     ⟨"State", (·.state.isSome), fun r => do return { r with state := some (← statePart) }⟩,
     ⟨"RestartCount", (·.restartCount.isSome), fun r => do
      return { r with restartCount := some (← Reader.optional (Reader.natural 32)) }⟩,
     ⟨"Config", (·.config.isSome), fun r => do
      return { r with config := some (← Reader.optional configPart) }⟩]
    {} some

/-- The state word of a record, empty where there is none. -/
def Record.stateWord (r : Record) : String :=
  ((r.state.bind StatePart.status).bind id).getD ""

/-- The container of a record, if its lifecycle state is known. The engine's names start with a
slash, which is not part of the container's name. -/
def Record.observation? (r : Record) : Option Observation :=
  (Lifecycle.parse? r.stateWord).map fun state =>
    let labels : Labels :=
      match r.config with
      | some (some config) => (config.labels.bind id).getD []
      | _ => []
    let health : Option Health := do
      let part ← (← r.state).health
      Health.parse? (← (← (← part).status))
    { name := String.ofList (Text.dropStart (· == '/') (r.name.getD "").toList)
      service := labels.get? composeServiceLabel
      state
      health
      exitCode := (r.state.bind StatePart.exitCode).bind id
      restartCount := r.restartCount.bind id
      labels }

/-- The notice that a record is left out. -/
def Record.notice? (r : Record) : Option Warning :=
  if r.observation?.isSome then none
  else some (.unrecognizedState (r.name.getD "") r.stateWord)

def records (output : String) : Except Fault (List Record) :=
  if Text.isBlankText output then .ok [] else Reader.run (Reader.array record) output

end Inspect

/-- Reads the containers of the engine's output, with the notices of those left out. -/
def Observation.parseAll (output : String) : Except Fault (List Observation × List Warning) :=
  (Inspect.records output).map fun records =>
    (records.filterMap Inspect.Record.observation?, records.filterMap Inspect.Record.notice?)

end FleetWatch
