import FleetWatch.Json.Reader
import FleetWatch.Status.Evaluate

/-! # Agent reports

What an agent on a server sends: the server's name and its containers, each with a status text and
its labels.
-/

namespace FleetWatch

open Json (Reader Fault)

/-- One container as an agent reports it. -/
structure AgentContainer where
  name : String
  /-- The status text, in either of the forms a token is read from. -/
  status : String
  restartCount : Option Nat := none
  labels : Labels := []
  deriving DecidableEq, Repr

namespace AgentContainer

/-- The container under the name it goes by. -/
def named (c : AgentContainer) : NamedStatus where
  name := (c.labels.get? composeServiceLabel).getD c.name
  status := c.status
  restartCount := c.restartCount

/-- The fields of a reported container, as far as they have been read. -/
structure Parts where
  name : Option String := none
  status : Option String := none
  restartCount : Option (Option Nat) := none
  labels : Option Labels := none

def reader : Reader AgentContainer :=
  Reader.record
    [⟨"name", fun p => p.name.isSome, fun p => do
      return { p with name := some (← Reader.string) }⟩,
     ⟨"status", fun p => p.status.isSome, fun p => do
      return { p with status := some (← Reader.string) }⟩,
     ⟨"restart_count", fun p => p.restartCount.isSome, fun p => do
      return { p with restartCount := some (← Reader.optional (Reader.natural 32)) }⟩,
     ⟨"labels", fun p => p.labels.isSome, fun p => do
      return { p with labels := some (← Reader.dictionary Reader.string) }⟩]
    ({} : Parts)
    fun p => do
      return ⟨← p.name, ← p.status, p.restartCount.bind id, p.labels.getD []⟩

def parseAll (text : String) : Except Fault (List AgentContainer) :=
  Reader.run (Reader.array reader) text

end AgentContainer

/-- What an agent sends. -/
structure AgentReport where
  /-- The name under which the server is configured. -/
  server : String
  containers : List AgentContainer := []
  deriving DecidableEq, Repr

namespace AgentReport

/-- The fields of a report, as far as they have been read. -/
structure Parts where
  server : Option String := none
  containers : Option (List AgentContainer) := none

def reader : Reader AgentReport :=
  Reader.record
    [⟨"server", fun p => p.server.isSome, fun p => do
      return { p with server := some (← Reader.string) }⟩,
     ⟨"containers", fun p => p.containers.isSome, fun p => do
      return { p with containers := some (← Reader.array AgentContainer.reader) }⟩]
    ({} : Parts)
    fun p => do return ⟨← p.server, p.containers.getD []⟩

def parse (text : String) : Except Fault AgentReport := Reader.run reader text

end AgentReport

end FleetWatch
