import FleetWatch.Json

/-! # Settings

How the service is set up: its HTTP interface, its collectors, where it keeps statuses, and the
servers, applications and services it watches. Everything but the names of servers and resources
has a default.
-/

namespace FleetWatch

/-- The HTTP interface. -/
structure ApiSettings where
  bindAddress : String := "0.0.0.0:8000"
  /-- The token of requests that manage resources. -/
  apiKey : String := "CHANGE_ME_IN_PRODUCTION"
  /-- The token of agents' reports. -/
  agentToken : String := "CHANGE_ME_IN_PRODUCTION"
  requestTimeoutSecs : Nat := 30
  deriving DecidableEq, Repr

/-- When and how collectors run. -/
structure CollectorSettings where
  sshEnabled : Bool := true
  sshIntervalSecs : Nat := 60
  complexEnabled : Bool := true
  complexIntervalSecs : Nat := 60
  /-- How long one inspection of a server may take. -/
  sshTimeoutSecs : Nat := 30
  sshBinary : String := "ssh"
  deriving DecidableEq, Repr

/-- Where statuses are kept over restarts. -/
structure StoreSettings where
  persistencePath : Option String := none
  deriving DecidableEq, Repr

/-- What can be observed of the service itself. -/
structure ObservabilitySettings where
  logLevel : String := "info"
  metricsEnabled : Bool := true
  metricsAddress : String := "0.0.0.0:9090"
  deriving DecidableEq, Repr

/-- A server that containers run on. -/
structure Server where
  name : String
  host : String
  user : String := "root"
  port : Nat := 22
  identityFile : Option String := none
  deriving DecidableEq, Repr

/-- An application, on one server or several. -/
structure Application where
  id : String
  /-- Its first server. -/
  server : String
  additionalServers : List String := []
  composePath : Option String := none
  deriving DecidableEq, Repr

namespace Application

def isMultiServer (a : Application) : Bool := !a.additionalServers.isEmpty

/-- The servers of the application, its first one first. -/
def allServers (a : Application) : List String := a.server :: a.additionalServers

end Application

/-- A service that consists of the parts that its compose file declares. -/
structure Service where
  id : String
  server : String
  composePath : String
  deriving DecidableEq, Repr

/-- How the service is set up. -/
structure Settings where
  api : ApiSettings := {}
  collectors : CollectorSettings := {}
  store : StoreSettings := {}
  observability : ObservabilitySettings := {}
  servers : List Server := []
  applications : List Application := []
  services : List Service := []
  deriving DecidableEq, Repr

namespace Settings

def server? (s : Settings) (name : String) : Option Server := s.servers.find? (·.name == name)

def multiServerApplications (s : Settings) : List Application :=
  s.applications.filter (·.isMultiServer)

end Settings

/-! ## JSON -/

def ApiSettings.json (a : ApiSettings) : Json :=
  .obj [("bind_address", .str a.bindAddress), ("api_key", .str a.apiKey),
    ("agent_token", .str a.agentToken), ("request_timeout_secs", .num a.requestTimeoutSecs)]

def CollectorSettings.json (c : CollectorSettings) : Json :=
  .obj [("ssh_enabled", .bool c.sshEnabled), ("ssh_interval_secs", .num c.sshIntervalSecs),
    ("complex_enabled", .bool c.complexEnabled),
    ("complex_interval_secs", .num c.complexIntervalSecs),
    ("ssh_timeout_secs", .num c.sshTimeoutSecs), ("ssh_binary", .str c.sshBinary)]

def ObservabilitySettings.json (o : ObservabilitySettings) : Json :=
  .obj [("log_level", .str o.logLevel), ("metrics_enabled", .bool o.metricsEnabled),
    ("metrics_address", .str o.metricsAddress)]

def Server.json (s : Server) : Json :=
  .obj [("name", .str s.name), ("host", .str s.host), ("user", .str s.user), ("port", .num s.port),
    ("identity_file", .ofOption s.identityFile)]

def Application.json (a : Application) : Json :=
  .obj [("id", .str a.id), ("server", .str a.server),
    ("additional_servers", .arr (a.additionalServers.map .str)),
    ("compose_path", .ofOption a.composePath)]

def Service.json (s : Service) : Json :=
  .obj [("id", .str s.id), ("server", .str s.server), ("compose_path", .str s.composePath)]

def Settings.json (s : Settings) : Json :=
  .obj [("api", s.api.json), ("collectors", s.collectors.json),
    ("store", .obj [("persistence_path", .ofOption s.store.persistencePath)]),
    ("observability", s.observability.json), ("servers", .arr (s.servers.map Server.json)),
    ("applications", .arr (s.applications.map Application.json)),
    ("services", .arr (s.services.map Service.json))]

end FleetWatch
