import FleetWatch.Settings
import FleetWatch.Settings.Address
import FleetWatch.Text.Blank

/-! # Validation of settings

What can be wrong with settings that have the right form. All problems are reported, in a fixed
order; settings without any are valid. In valid settings, every server that a resource names is
the one server of that name.
-/

namespace FleetWatch

/-- Something that is wrong with settings. -/
inductive SettingsProblem where
  | invalidAddress (field : String) (value : String)
  | emptyToken (field : String)
  | zeroInterval (field : String)
  | duplicate (kind : String) (id : String)
  | unknownServer (kind : String) (id : String) (server : String)
  deriving DecidableEq, Repr

def SettingsProblem.message : SettingsProblem → String
  | invalidAddress field value => "invalid " ++ field ++ " address: " ++ value
  | emptyToken field => field ++ " must not be empty"
  | zeroInterval field => field ++ " must be greater than zero"
  | duplicate kind id => "duplicate " ++ kind ++ " identifier: " ++ id
  | unknownServer kind id server =>
      kind ++ " " ++ id ++ " references unknown server " ++ server

namespace Settings

/-- The elements that stand somewhere before in the list too, one for each such position; `seen`
are the elements before the list. -/
def repeated (seen : List String) : List String → List String
  | [] => []
  | id :: rest =>
      (if seen.contains id then [id] else []) ++ repeated (id :: seen) rest

/-- The addresses that are none; the one of metrics counts only when they are enabled. -/
def addressProblems (isAddress : String → Bool) (s : Settings) : List SettingsProblem :=
  (if isAddress s.api.bindAddress then []
    else [.invalidAddress "api.bind_address" s.api.bindAddress]) ++
  (if !s.observability.metricsEnabled || isAddress s.observability.metricsAddress then []
    else [.invalidAddress "observability.metrics_address" s.observability.metricsAddress])

def tokenProblems (s : Settings) : List SettingsProblem :=
  [("api.api_key", s.api.apiKey), ("api.agent_token", s.api.agentToken)].filterMap
    fun (field, token) => if Text.isBlankText token then some (.emptyToken field) else none

def intervalProblems (s : Settings) : List SettingsProblem :=
  [("collectors.ssh_interval_secs", s.collectors.sshIntervalSecs),
    ("collectors.complex_interval_secs", s.collectors.complexIntervalSecs),
    ("collectors.ssh_timeout_secs", s.collectors.sshTimeoutSecs)].filterMap
    fun (field, secs) => if secs = 0 then some (.zeroInterval field) else none

def duplicateProblems (s : Settings) : List SettingsProblem :=
  (repeated [] (s.servers.map Server.name)).map (.duplicate "server") ++
  (repeated [] (s.applications.map Application.id)).map (.duplicate "application") ++
  (repeated [] (s.services.map Service.id)).map (.duplicate "service")

def knows (s : Settings) (server : String) : Bool := s.servers.any (·.name == server)

/-- The servers that resources name and that are not configured. -/
def referenceProblems (s : Settings) : List SettingsProblem :=
  (s.applications.flatMap fun a =>
    (a.allServers.filter fun server => !s.knows server).map (.unknownServer "application" a.id)) ++
  (s.services.filter fun v => !s.knows v.server).map fun v =>
    .unknownServer "service" v.id v.server

/-- All that is wrong with settings, given which texts are addresses. -/
def problemsWith (isAddress : String → Bool) (s : Settings) : List SettingsProblem :=
  s.addressProblems isAddress ++ s.tokenProblems ++ s.intervalProblems ++ s.duplicateProblems ++
    s.referenceProblems

def problems (s : Settings) : List SettingsProblem := s.problemsWith Address.isSocketAddress

end Settings

end FleetWatch
