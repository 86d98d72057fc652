import FleetWatch.Container.Report
import FleetWatch.Names

/-! # Containers of one server

What one collection cycle saw on one server, in the shape of the collector that saw it. The
containers of a resource are those that carry its id in the resource label; containers without
that label belong to no resource.
-/

namespace FleetWatch

/-- The containers of one resource, observed or reported. -/
inductive Containers where
  | observed (containers : List Observation)
  | reported (statuses : List NamedStatus)
  deriving Repr

namespace Containers

def count : Containers → Nat
  | observed cs => cs.length
  | reported ss => ss.length

def isEmpty (cs : Containers) : Bool := cs.count == 0

/-- The status of a resource with these containers. -/
def evaluate (cs : Containers) (excluded : List String) : Status :=
  match cs with
  | observed os => Status.evaluate os excluded
  | reported ss => Status.evaluateReported ss excluded

/-- The status of a resource of which only the excluded containers are looked at. -/
def evaluateExcluded (cs : Containers) (excluded : List String) : Status :=
  match cs with
  | observed os => Status.ofExcluded os excluded
  | reported ss =>
      let tagged := ss.filter fun s => excluded.contains s.name
      Status.ofExcludedTexts (tagged.map NamedStatus.status) (maxReportedRestarts tagged)

/-- There is a container, and every one is excluded. -/
def allExcluded (cs : Containers) (excluded : List String) : Bool :=
  match cs with
  | observed os => !os.isEmpty && os.all (·.isExcluded excluded)
  | reported ss => !ss.isEmpty && ss.all fun s => excluded.contains s.name

def names : Containers → List String
  | observed os => os.map Observation.exclusionKey
  | reported ss => ss.map NamedStatus.name

/-- The containers that go by the given name. -/
def named (cs : Containers) (name : String) : Containers :=
  match cs with
  | observed os => observed (os.filter (·.exclusionKey == name))
  | reported ss => reported (ss.filter (·.name == name))

/-- The parts that the containers make up: the names they go by, in order. -/
def parts (cs : Containers) : List String := distinctSorted cs.names

end Containers

/-- What was seen on one server. -/
inductive Snapshot where
  | observed (containers : List Observation)
  | reported (containers : List AgentContainer)
  deriving Repr

namespace Snapshot

def resourceIds : Snapshot → List String
  | observed os => os.filterMap (·.labels.get? resourceLabel)
  | reported rs => rs.filterMap (·.labels.get? resourceLabel)

def resourceCount (s : Snapshot) : Nat := (distinctSorted s.resourceIds).length

def containers (s : Snapshot) (id : String) : Containers :=
  match s with
  | observed os => .observed (os.filter fun c => c.labels.get? resourceLabel == some id)
  | reported rs =>
      .reported ((rs.filter fun c => c.labels.get? resourceLabel == some id).map
        AgentContainer.named)

end Snapshot

end FleetWatch
