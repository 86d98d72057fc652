import FleetWatch.Api.Response
import FleetWatch.Api.Route
import FleetWatch.Http.MediaType

/-! # The HTTP interface

What the service answers to a request, and how the request changes what it knows. Two routes are
guarded: agents push their reports with one token, and resources are marked as being deployed with
another. On a guarded route the token is looked at first, whatever the method.
-/

namespace FleetWatch.Api

open Http (Request)
open Json (Reader)

/-- The body of a request, read as JSON. -/
def body {α : Type} (reader : Reader α) (r : Request) : Except Refusal α :=
  if !((r.textHeader? "content-type").any Http.isJsonType) then .error .notJson
  else if 2097152 < r.body.utf8ByteSize then .error .tooLarge
  else
    match Reader.run reader r.body with
    | .ok a => .ok a
    | .error .mismatched => .error .mismatchedBody
    | .error _ => .error .malformedBody

/-- The resource that two segments of a path name. -/
def resourceKey (kind id : String) : Except Refusal ResourceKey :=
  match ResourceKind.parse? kind with
  | some .application => .ok (.application id)
  | some .service => .ok (.service id)
  | none => .error (.unknownKind kind)

/-- The texts of the segments of a kind and an id. -/
def segments (kind id : List Char) : Except Refusal (String × String) :=
  match Http.segmentText? kind, Http.segmentText? id with
  | some kind, some id => .ok (kind, id)
  | none, _ => .error (.undecodablePath "kind")
  | _, none => .error (.undecodablePath "id")

def reading (r : Request) (answer : Except Refusal Json) : Except Refusal Json :=
  if r.method = "GET" || r.method = "HEAD" then answer else .error .wrongMethod

def resource (f : Fleet) (kind id : List Char) : Except Refusal Json := do
  let (kind, id) ← segments kind id
  let key ← resourceKey kind id
  match f.store.get? key with
  | some r => .ok (detail f key r)
  | none => .error (.notFound key)

def authorized (r : Request) (token : String) : Bool := r.bearer? == some token

def push (f : Fleet) (around : Surroundings) (r : Request) : Fleet × Except Refusal Json :=
  if !authorized r f.settings.api.agentToken then
    (f.measure (.received .unauthorized), .error .unauthorized)
  else if r.method ≠ "POST" then (f, .error .wrongMethod)
  else
    match body AgentReport.reader r with
    | .error refusal => (f, .error refusal)
    | .ok report =>
        match f.report around report with
        | (f, .ok summary) => (f, .ok summary.json)
        | (f, .error e) => (f, .error (.unknownServer e))

def deployingReader : Reader Bool :=
  Reader.record
    [⟨"deploying", fun (on : Option Bool) => on.isSome, fun _ => do
      return some (← Reader.bool)⟩]
    none id

def isConfigured (f : Fleet) (key : ResourceKey) : Bool :=
  match key.kind with
  | .application => f.settings.applications.any (·.id == key.id)
  | .service => f.settings.services.any (·.id == key.id)

/-- The resource that a request is about and whether it is being deployed. -/
def deployingRequest (f : Fleet) (r : Request) (kind id : List Char) :
    Except Refusal (ResourceKey × Bool) := do
  let (kind, id) ← segments kind id
  let on ← body deployingReader r
  let key ← resourceKey kind id
  if isConfigured f key then .ok (key, on) else .error (.notFound key)

/-- Marks a resource as being deployed, or as done. -/
def setDeploying (f : Fleet) (around : Surroundings) (r : Request) (kind id : List Char) :
    Fleet × Except Refusal Json :=
  if !authorized r f.settings.api.apiKey then (f, .error .unauthorized)
  else if r.method ≠ "PUT" then (f, .error .wrongMethod)
  else
    match deployingRequest f r kind id with
    | .error refusal => (f, .error refusal)
    | .ok (key, on) =>
        (f.setDeploying around.now key on,
          .ok (.obj [("resource", .str key.text), ("deploying", .bool on)]))

/-- The answer to a request with a path. -/
def answer (f : Fleet) (around : Surroundings) (r : Request) (path : List Char) :
    Fleet × Except Refusal Json :=
  match Route.ofPath? path with
  | none => (f, .error .noRoute)
  | some .health => (f, reading r (.ok (healthView f)))
  | some .resources => (f, reading r (.ok (.arr (f.store.entries.map view))))
  | some (.resource kind id) => (f, reading r (resource f kind id))
  | some .push => push f around r
  | some (.deploying kind id) => setDeploying f around r kind id

/-- The response to a request, unless it is not well formed. The response to `HEAD` has no body. -/
def respond (f : Fleet) (around : Surroundings) (r : Request) : Option (Fleet × Response) :=
  if !r.isWellFormed then none
  else
    (Http.targetPath? r.target).map fun path =>
      let (f, result) := answer f around r path
      let response := Response.ofAnswer result
      (f, if r.method = "HEAD" then { response with body := .empty } else response)

end FleetWatch.Api
