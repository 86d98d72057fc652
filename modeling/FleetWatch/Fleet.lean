import FleetWatch.Compose
import FleetWatch.Container.Snapshot
import FleetWatch.Fleet.Measurement
import FleetWatch.Settings
import FleetWatch.Store

/-! # The fleet

What the service knows: its settings, the latest status of every resource, the resources that are
being deployed, and the measurements it has taken. Statuses enter through `record` alone, so that
every record is counted and the number of records is measured after it.

While a resource is being deployed its status is `starting:unhealthy`, whatever its containers do;
the collectors leave its parts and placements alone.
-/

namespace FleetWatch

/-- What the service finds around it. -/
structure Surroundings where
  /-- The text of the file with this name, if there is one that can be read. -/
  file? : String → Option String
  /-- The time, in seconds since the epoch. -/
  now : Nat

/-- The compose file with this name. One that cannot be read is as good as an empty one. -/
def Surroundings.compose (around : Surroundings) (path : String) : ComposeFile :=
  match around.file? path with
  | some text => ComposeFile.parse text
  | none => {}

/-- The compose file, where a resource has one. -/
def Surroundings.composeOptional (around : Surroundings) : Option String → ComposeFile
  | some path => around.compose path
  | none => {}

/-- What the service knows. -/
structure Fleet where
  settings : Settings := {}
  store : Store := .empty
  /-- The resources that are being deployed, each once. -/
  deploying : List ResourceKey := []
  /-- What has been measured, the latest first. -/
  log : List Measurement := []
  /-- The file that keeps the store over restarts, if there is one. -/
  storePath : Option String := none

def total (counts : List Nat) : Nat := counts.foldr (· + ·) 0

namespace Fleet

def isDeploying (f : Fleet) (key : ResourceKey) : Bool := f.deploying.contains key

def measure (f : Fleet) (m : Measurement) : Fleet := { f with log := m :: f.log }

def record (f : Fleet) (key : ResourceKey) (r : StatusRecord) : Fleet :=
  let store := f.store.insert key r
  { f with store, log := .tracked store.size :: .recorded key.kind r.status.base :: f.log }

def recordAll (f : Fleet) (batch : List StoreEntry) : Fleet :=
  batch.foldl (fun f e => f.record e.1 e.2) f

/-- Drops the parts or placements of a resource that are not to be kept. -/
def retainChildren (f : Fleet) (parent : ResourceKey) (keep : List ResourceKey) : Fleet :=
  { f with store := f.store.retainChildren parent keep }

/-- The containers that the record of a resource was computed from, zero without a record. -/
def countOf (f : Fleet) (key : ResourceKey) : Nat :=
  ((f.store.get? key).map StatusRecord.containerCount).getD 0

/-- Marks a resource as being deployed, or as done. The override is recorded at once; it stays
until the resource is collected again. -/
def setDeploying (f : Fleet) (now : Nat) (key : ResourceKey) (on : Bool) : Fleet :=
  if on then
    let f := { f with deploying := if f.isDeploying key then f.deploying else key :: f.deploying }
    f.record key (.deploying (f.countOf key) now)
  else { f with deploying := f.deploying.filter (· ≠ key) }

/-- Records the parts or placements of a resource and drops those that are not to be kept. -/
def replaceChildren (f : Fleet) (parent : ResourceKey) (batch : List StoreEntry)
    (keep : List ResourceKey) : Fleet :=
  (f.recordAll batch).retainChildren parent keep

/-! ## Resources on one server -/

/-- Records an application on one server from its containers there. -/
def recordApplication (around : Surroundings) (containers : Containers) (source : StatusSource)
    (f : Fleet) (app : Application) : Fleet :=
  let key := ResourceKey.application app.id
  if f.isDeploying key then f.record key (.deploying containers.count around.now)
  else
    let compose := around.composeOptional app.composePath
    f.record key
      { status := containers.evaluate compose.excluded
        source
        containerCount := containers.count
        updatedAt := around.now }

/-- The parts of a service: those that its compose file declares and those that its containers make
up. -/
def partNames (compose : ComposeFile) (containers : Containers) : List String :=
  distinctSorted (compose.services ++ containers.names)

/-- What is recorded of one part of a service: the status of its containers. -/
def partRecord (compose : ComposeFile) (containers : Containers) (source : StatusSource)
    (now : Nat) (sub : String) : StatusRecord :=
  let subset := containers.named sub
  let status :=
    if compose.excluded.contains sub then subset.evaluateExcluded compose.excluded
    else subset.evaluate compose.excluded
  { status, source, containerCount := subset.count, updatedAt := now }

/-- The records of all parts of a service. -/
def partRecords (compose : ComposeFile) (containers : Containers) (source : StatusSource)
    (now : Nat) (id : String) : List StoreEntry :=
  (partNames compose containers).map fun sub =>
    (.part id sub, partRecord compose containers source now sub)

/-- The stored parts of a service with their statuses. -/
def parts (f : Fleet) (id : String) : List (String × Status) :=
  (f.store.children (.service id)).filterMap fun (key, r) =>
    key.subResource.map fun sub => (sub, r.status)

/-- Records a service from its containers: first its parts, and then itself from them. -/
def recordService (around : Surroundings) (containers : Containers) (source : StatusSource)
    (f : Fleet) (service : Service) : Fleet :=
  let key := ResourceKey.service service.id
  if f.isDeploying key then f.record key (.deploying containers.count around.now)
  else
    let compose := around.compose service.composePath
    let batch := partRecords compose containers source around.now service.id
    let f := f.replaceChildren key batch (batch.map Prod.fst)
    let parts := f.parts service.id
    f.record key
      { status := Status.rollup parts compose.excluded
        source
        containerCount := parts.length
        updatedAt := around.now }

/-- The applications that have a server as their only one. -/
def applicationsOn (f : Fleet) (server : String) : List Application :=
  f.settings.applications.filter fun a => a.server == server && !a.isMultiServer

def servicesOn (f : Fleet) (server : String) : List Service :=
  f.settings.services.filter (·.server == server)

/-- How many resources are collected with a server. -/
def resourcesOn (f : Fleet) (server : String) : Nat :=
  (f.applicationsOn server).length + (f.servicesOn server).length

/-- Records the resources on a server from what was seen there. -/
def applySnapshot (f : Fleet) (around : Surroundings) (server : String) (snapshot : Snapshot)
    (source : StatusSource) : Fleet :=
  let withApplications := (f.applicationsOn server).foldl
    (fun f app => recordApplication around (snapshot.containers app.id) source f app) f
  (f.servicesOn server).foldl
    (fun f service => recordService around (snapshot.containers service.id) source f service)
    withApplications

end Fleet

end FleetWatch
