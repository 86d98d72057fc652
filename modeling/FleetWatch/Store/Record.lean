import FleetWatch.Json.Reader
import FleetWatch.Status.Label

/-! # Records of statuses

The latest known status of a resource with what it was computed from.
-/

namespace FleetWatch

open Json (Reader Fault)

def Status.reader : Reader Status := fun s =>
  match Reader.string s with
  | .error fault => .error fault
  | .ok (text, rest) =>
      match Status.parse? text with
      | some status => .ok (status, rest)
      | none => .error .mismatched

/-- Which way of collection a status came from. -/
inductive StatusSource where
  | ssh
  | agent
  /-- The check of applications on several servers. -/
  | complex
  /-- The override while a resource is being deployed. -/
  | deployment
  deriving DecidableEq, Repr

namespace StatusSource

def text : StatusSource → String
  | ssh => "ssh"
  | agent => "agent"
  | complex => "complex"
  | deployment => "deployment"

def ofText? : String → Option StatusSource
  | "ssh" => some ssh
  | "agent" => some agent
  | "complex" => some complex
  | "deployment" => some deployment
  | _ => none

theorem ofText?_text (s : StatusSource) : ofText? s.text = some s := by cases s <;> rfl

end StatusSource

/-- The latest known status of a resource. -/
structure StatusRecord where
  status : Status
  source : StatusSource
  /-- The containers that the status was computed from. -/
  containerCount : Nat
  /-- Seconds since the epoch. -/
  updatedAt : Nat
  /-- There were containers, and all of them are excluded from health checks. A status that is
  `exited` does not show this by a tag. -/
  allExcluded : Bool := false
  deriving DecidableEq, Repr

namespace StatusRecord

/-- The override of a resource that is being deployed. -/
def deploying (containerCount now : Nat) : StatusRecord :=
  { status := .deploying, source := .deployment, containerCount, updatedAt := now }

def json (r : StatusRecord) : Json :=
  .obj [("status", .str r.status.text), ("source", .str r.source.text),
    ("container_count", .num r.containerCount), ("updated_at", .num r.updatedAt),
    ("all_excluded", .bool r.allExcluded)]

/-- The fields of a record, as far as they have been read. -/
structure Parts where
  status : Option Status := none
  source : Option StatusSource := none
  containerCount : Option Nat := none
  updatedAt : Option Nat := none
  allExcluded : Option Bool := none

def reader : Reader StatusRecord :=
  Reader.record
    [⟨"status", fun p => p.status.isSome, fun p => do
      return { p with status := some (← Status.reader) }⟩,
     ⟨"source", fun p => p.source.isSome, fun p => do
      return { p with source := some (← Reader.word StatusSource.ofText?) }⟩,
     ⟨"container_count", fun p => p.containerCount.isSome, fun p => do
      return { p with containerCount := some (← Reader.natural 64) }⟩,
     ⟨"updated_at", fun p => p.updatedAt.isSome, fun p => do
      return { p with updatedAt := some (← Reader.natural 64) }⟩,
     ⟨"all_excluded", fun p => p.allExcluded.isSome, fun p => do
      return { p with allExcluded := some (← Reader.bool) }⟩]
    ({} : Parts)
    fun p => do
      return {
        status := ← p.status
        source := ← p.source
        containerCount := ← p.containerCount
        updatedAt := ← p.updatedAt
        allExcluded := p.allExcluded.getD false }

end StatusRecord

end FleetWatch
