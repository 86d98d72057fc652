import FleetWatch.Number.Width
import FleetWatch.Settings
import FleetWatch.Toml.Value

/-! # Settings from a document

Settings are read from the tables of a document. A missing key stands for its default, if it has
one, and a key that is not known is left aside. A group of settings may also be given as a list of
its values in their order, of which the last may be missing; a date in place of a group gives
none of its settings.
-/

namespace FleetWatch

open Toml (Value)

namespace Toml.Value

/-- The members of a group with the given keys. -/
def members? (keys : List String) : Value → Option (List (String × Value))
  | table pairs => some pairs
  | array items => some (keys.zip items)
  | datetime => some []
  | _ => none

def string? : Value → Option String
  | string s => some s
  | _ => none

def boolean? : Value → Option Bool
  | boolean b => some b
  | _ => none

/-- A natural number below `2 ^ bits`. -/
def natural? (bits : Nat) : Value → Option Nat
  | integer n => if 0 ≤ n && n < twoTo bits then some n.toNat else none
  | _ => none

def list? {α : Type} (read : Value → Option α) : Value → Option (List α)
  | array items => items.mapM read
  | _ => none

end Toml.Value

/-- The value of a member, or its default if it is missing. -/
def memberOr {α : Type} (members : List (String × Value)) (key : String) (default : α)
    (read : Value → Option α) : Option α :=
  match members.lookup key with
  | some v => read v
  | none => some default

/-- The value of a member that must be there. -/
def member {α : Type} (members : List (String × Value)) (key : String)
    (read : Value → Option α) : Option α :=
  (members.lookup key).bind read

/-- The text of a member that may be missing. -/
def memberText (members : List (String × Value)) (key : String) : Option (Option String) :=
  memberOr members key none fun v => v.string?.map some

def ApiSettings.ofValue? (v : Value) : Option ApiSettings := do
  let ms ← v.members? ["bind_address", "api_key", "agent_token", "request_timeout_secs"]
  let d : ApiSettings := {}
  return {
    bindAddress := ← memberOr ms "bind_address" d.bindAddress Value.string?
    apiKey := ← memberOr ms "api_key" d.apiKey Value.string?
    agentToken := ← memberOr ms "agent_token" d.agentToken Value.string?
    requestTimeoutSecs :=
      ← memberOr ms "request_timeout_secs" d.requestTimeoutSecs (Value.natural? 64) }

def CollectorSettings.ofValue? (v : Value) : Option CollectorSettings := do
  let ms ← v.members? ["ssh_enabled", "ssh_interval_secs", "complex_enabled",
    "complex_interval_secs", "ssh_timeout_secs", "ssh_binary"]
  let d : CollectorSettings := {}
  return {
    sshEnabled := ← memberOr ms "ssh_enabled" d.sshEnabled Value.boolean?
    sshIntervalSecs := ← memberOr ms "ssh_interval_secs" d.sshIntervalSecs (Value.natural? 64)
    complexEnabled := ← memberOr ms "complex_enabled" d.complexEnabled Value.boolean?
    complexIntervalSecs :=
      ← memberOr ms "complex_interval_secs" d.complexIntervalSecs (Value.natural? 64)
    sshTimeoutSecs := ← memberOr ms "ssh_timeout_secs" d.sshTimeoutSecs (Value.natural? 64)
    sshBinary := ← memberOr ms "ssh_binary" d.sshBinary Value.string? }

def StoreSettings.ofValue? (v : Value) : Option StoreSettings := do
  let ms ← v.members? ["persistence_path"]
  return { persistencePath := ← memberText ms "persistence_path" }

def ObservabilitySettings.ofValue? (v : Value) : Option ObservabilitySettings := do
  let ms ← v.members? ["log_level", "metrics_enabled", "metrics_address"]
  let d : ObservabilitySettings := {}
  return {
    logLevel := ← memberOr ms "log_level" d.logLevel Value.string?
    metricsEnabled := ← memberOr ms "metrics_enabled" d.metricsEnabled Value.boolean?
    metricsAddress := ← memberOr ms "metrics_address" d.metricsAddress Value.string? }

def Server.ofValue? (v : Value) : Option Server := do
  let ms ← v.members? ["name", "host", "user", "port", "identity_file"]
  return {
    name := ← member ms "name" Value.string?
    host := ← member ms "host" Value.string?
    user := ← memberOr ms "user" "root" Value.string?
    port := ← memberOr ms "port" 22 (Value.natural? 16)
    identityFile := ← memberText ms "identity_file" }

def Application.ofValue? (v : Value) : Option Application := do
  let ms ← v.members? ["id", "server", "additional_servers", "compose_path"]
  return {
    id := ← member ms "id" Value.string?
    server := ← member ms "server" Value.string?
    additionalServers := ← memberOr ms "additional_servers" [] (Value.list? Value.string?)
    composePath := ← memberText ms "compose_path" }

def Service.ofValue? (v : Value) : Option Service := do
  let ms ← v.members? ["id", "server", "compose_path"]
  return {
    id := ← member ms "id" Value.string?
    server := ← member ms "server" Value.string?
    composePath := ← member ms "compose_path" Value.string? }

/-- Settings, if every value has the right form. -/
def Settings.ofValue? (v : Value) : Option Settings := do
  let ms ← v.members? ["api", "collectors", "store", "observability", "servers", "applications",
    "services"]
  return {
    api := ← memberOr ms "api" {} ApiSettings.ofValue?
    collectors := ← memberOr ms "collectors" {} CollectorSettings.ofValue?
    store := ← memberOr ms "store" {} StoreSettings.ofValue?
    observability := ← memberOr ms "observability" {} ObservabilitySettings.ofValue?
    servers := ← memberOr ms "servers" [] (Value.list? Server.ofValue?)
    applications := ← memberOr ms "applications" [] (Value.list? Application.ofValue?)
    services := ← memberOr ms "services" [] (Value.list? Service.ofValue?) }

end FleetWatch
