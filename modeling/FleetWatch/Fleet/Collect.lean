import FleetWatch.Container.Report
import FleetWatch.Fleet
import FleetWatch.Ssh

/-! # Collection

The three ways in which statuses come in: polling every server, checking the applications on more
than one server, and the reports of agents. A server that cannot be inspected changes nothing; its
resources keep what was known of them.
-/

namespace FleetWatch.Fleet

/-! ## Polling -/

/-- Records the resources on one server, if it can be inspected. -/
def pollServer (around : Surroundings) (inspect : Inspector) (f : Fleet) (server : Server) :
    Fleet :=
  match inspect server with
  | .ok containers => f.applySnapshot around server.name (.observed containers) .ssh
  | .error _ => f

def answers (inspect : Inspector) (server : Server) : Bool :=
  match inspect server with
  | .ok _ => true
  | .error _ => false

/-- Polls servers in the given order, which is the order in which their inspections end. The
result says how many resources were recorded. -/
def pollInOrder (f : Fleet) (around : Surroundings) (inspect : Inspector)
    (servers : List Server) : Fleet × Nat :=
  let polled := servers.foldl (pollServer around inspect) f
  let outcome : Outcome := if servers.all (answers inspect) then .success else .incomplete
  let updated := (servers.filter (answers inspect)).map fun server => f.resourcesOn server.name
  (polled.measure (.collected .ssh outcome), total updated)

def poll (f : Fleet) (around : Surroundings) (inspect : Inspector) : Fleet × Nat :=
  f.pollInOrder around inspect f.settings.servers

/-! ## Reports -/

/-- A report names a server that is not configured. -/
structure UnknownServer where
  server : String
  deriving DecidableEq, Repr

def UnknownServer.message (e : UnknownServer) : String := "unknown server: " ++ e.server

/-- What a report came to. -/
structure PushSummary where
  server : String
  containers : Nat
  resourcesUpdated : Nat
  deriving DecidableEq, Repr

def PushSummary.json (s : PushSummary) : Json :=
  .obj [("server", .str s.server), ("containers", .num s.containers),
    ("resources_updated", .num s.resourcesUpdated)]

def report (f : Fleet) (around : Surroundings) (r : AgentReport) :
    Fleet × Except UnknownServer PushSummary :=
  match f.settings.server? r.server with
  | none => (f.measure (.received .unknownServer), .error ⟨r.server⟩)
  | some _ =>
      let applied := f.applySnapshot around r.server (.reported r.containers) .agent
      ((applied.measure (.received .accepted)).measure (.collected .agent .success),
        .ok ⟨r.server, r.containers.length, f.resourcesOn r.server⟩)

/-! ## Applications on more than one server -/

/-- The names of the servers that a check looks at: those of the applications that are not being
deployed, each once. -/
def wantedServers (f : Fleet) : List String :=
  distinctSorted ((f.settings.multiServerApplications.filter fun a =>
    !f.isDeploying (.application a.id)).flatMap Application.allServers)

/-- The servers that a check inspects: those it looks at, as far as they are configured. -/
def checkTargets (f : Fleet) : List Server := f.wantedServers.filterMap f.settings.server?

/-- What the servers show that can be inspected, by name. -/
def snapshots (inspect : Inspector) (servers : List Server) : List (String × Snapshot) :=
  servers.filterMap fun server =>
    match inspect server with
    | .ok containers => some (server.name, .observed containers)
    | .error _ => none

/-- What is recorded of the placement of an application on a server. -/
def placementRecord (compose : ComposeFile) (snapshot : Snapshot) (now : Nat) (app : Application) :
    StatusRecord :=
  let containers := snapshot.containers app.id
  { status := containers.evaluate compose.excluded
    source := .complex
    containerCount := containers.count
    updatedAt := now
    allExcluded := containers.allExcluded compose.excluded }

/-- The placements of an application on the servers that were seen. -/
def placementRecords (compose : ComposeFile) (seen : List (String × Snapshot)) (now : Nat)
    (app : Application) : List StoreEntry :=
  app.allServers.filterMap fun server =>
    (seen.lookup server).map fun snapshot =>
      (.placement app.id server, placementRecord compose snapshot now app)

/-- The stored placements of an application, by server. -/
def placements (f : Fleet) (id : String) : List (String × StatusRecord) :=
  (f.store.children (.application id)).filterMap fun (key, r) =>
    key.server.map fun server => (server, r)

/-- The status of an application from its placements. A placement all of whose containers are
excluded does not decide. -/
def placedStatus (placements : List (String × StatusRecord)) : Status :=
  Status.rollup (placements.map fun (server, r) => (server, r.status))
    ((placements.filter fun (_, r) => r.allExcluded).map Prod.fst)

/-- Records an application on more than one server: first its placements, and then itself from all
placements that are stored. Without any placement the application keeps its record. -/
def checkApplication (around : Surroundings) (seen : List (String × Snapshot)) (f : Fleet)
    (app : Application) : Fleet :=
  let key := ResourceKey.application app.id
  if f.isDeploying key then f.record key (.deploying (f.countOf key) around.now)
  else
    let compose := around.composeOptional app.composePath
    let batch := placementRecords compose seen around.now app
    let keep := app.allServers.map (ResourceKey.placement app.id)
    let f := f.replaceChildren key batch keep
    let placements := f.placements app.id
    if placements.isEmpty then f
    else
      let count := (f.store.children key).map fun (_, r) => r.containerCount
      f.record key
        { status := placedStatus placements
          source := .complex
          containerCount := total count
          updatedAt := around.now }

/-- Checks the applications on more than one server. The result says how many there are; without
any, nothing is done at all. -/
def check (f : Fleet) (around : Surroundings) (inspect : Inspector) : Fleet × Nat :=
  let apps := f.settings.multiServerApplications
  if apps.isEmpty then (f, 0)
  else
    let seen := snapshots inspect f.checkTargets
    let outcome : Outcome :=
      if seen.length = f.wantedServers.length then .success else .incomplete
    let checked := apps.foldl (checkApplication around seen) f
    (checked.measure (.collected .complex outcome), apps.length)

/-! ## Loops -/

/-- A collector that runs again and again. -/
inductive Loop where
  | polling
  | checking
  deriving DecidableEq, Repr

/-- The interval of a loop in seconds. There is none when the loop is disabled, or when the interval
is zero. -/
def interval? (f : Fleet) (loop : Loop) : Option Nat :=
  let c := f.settings.collectors
  let (enabled, secs) :=
    match loop with
    | .polling => (c.sshEnabled, c.sshIntervalSecs)
    | .checking => (c.complexEnabled, c.complexIntervalSecs)
  if enabled && secs != 0 then some secs else none

/-- One cycle of a loop, and the servers that it inspects. -/
def cycle (f : Fleet) (around : Surroundings) (inspect : Inspector) (loop : Loop) :
    Fleet × List Server :=
  match loop with
  | .polling => ((f.poll around inspect).1, f.settings.servers)
  | .checking => ((f.check around inspect).1, f.checkTargets)

/-- So many cycles of a loop, and the servers that they inspect. -/
def cycles (around : Surroundings) (inspect : Inspector) (loop : Loop) :
    Nat → Fleet → Fleet × List Server
  | 0, f => (f, [])
  | n + 1, f =>
      let (f, first) := f.cycle around inspect loop
      let (f, more) := cycles around inspect loop n f
      (f, first ++ more)

/-- Runs a loop for so many seconds: a cycle at once and one after every interval. There is no run
where the loop has no interval. -/
def runLoop (f : Fleet) (around : Surroundings) (inspect : Inspector) (loop : Loop)
    (secs : Nat) : Option (Fleet × List Server) :=
  (f.interval? loop).map fun interval => cycles around inspect loop (secs / interval + 1) f

end FleetWatch.Fleet
