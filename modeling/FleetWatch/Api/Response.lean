import FleetWatch.Fleet.Collect

/-! # Responses

What a request is answered with, and why a request is refused.
-/

namespace FleetWatch.Api

/-- Why a request is refused. -/
inductive Refusal where
  | unknownKind (kind : String)
  | notFound (key : ResourceKey)
  | unknownServer (error : Fleet.UnknownServer)
  /-- No route has this path. -/
  | noRoute
  /-- The route does not take this method. -/
  | wrongMethod
  /-- The token is missing or wrong. -/
  | unauthorized
  /-- A segment of the path is not UTF-8. -/
  | undecodablePath (segment : String)
  /-- The body is not announced as JSON. -/
  | notJson
  /-- The body has more than two mebibytes. -/
  | tooLarge
  /-- The body is not JSON. -/
  | malformedBody
  /-- The body is JSON of the wrong shape. -/
  | mismatchedBody
  deriving Repr

namespace Refusal

def code : Refusal → Nat
  | unknownKind _ => 400
  | notFound _ => 404
  | unknownServer _ => 404
  | noRoute => 404
  | wrongMethod => 405
  | unauthorized => 401
  | undecodablePath _ => 400
  | notJson => 415
  | tooLarge => 413
  | malformedBody => 400
  | mismatchedBody => 422

/-- The text of the error, where the body tells it. -/
def message? : Refusal → Option String
  | unknownKind kind => some ("unknown resource kind: " ++ kind)
  | notFound key => some ("resource not found: " ++ key.text)
  | unknownServer error => some error.message
  | _ => none

end Refusal

/-- The body of a response. -/
inductive Body where
  | empty
  | json (value : Json)
  | plain (text : String)
  deriving Repr

def Body.text : Body → String
  | empty => ""
  | json value => value.compact
  | plain text => text

def Refusal.body (r : Refusal) : Body :=
  match r, r.message? with
  | .undecodablePath segment, _ => .plain ("Invalid URL: Invalid UTF-8 in `" ++ segment ++ "`")
  | _, some text => .json (.obj [("error", .str text)])
  | _, none => .empty

def reason : Nat → String
  | 200 => "OK"
  | 400 => "Bad Request"
  | 401 => "Unauthorized"
  | 404 => "Not Found"
  | 405 => "Method Not Allowed"
  | 413 => "Payload Too Large"
  | 415 => "Unsupported Media Type"
  | 422 => "Unprocessable Entity"
  | _ => ""

/-- What a request is answered with. -/
structure Response where
  code : Nat
  body : Body
  deriving Repr

def Response.ofAnswer : Except Refusal Json → Response
  | .ok value => ⟨200, .json value⟩
  | .error refusal => ⟨refusal.code, refusal.body⟩

/-! ## Views -/

/-- The members of a stored status as the interface shows it. -/
def viewMembers (key : ResourceKey) (r : StatusRecord) : List (String × Json) :=
  [("key", .str key.text), ("status", .str r.status.text), ("label", .str r.status.label),
    ("source", .str r.source.text), ("container_count", .num r.containerCount),
    ("updated_at", .num r.updatedAt)]

/-- A stored status as the interface shows it. -/
def view (e : StoreEntry) : Json := .obj (viewMembers e.1 e.2)

/-- A stored status with those of its parts or placements. -/
def detail (f : Fleet) (key : ResourceKey) (r : StatusRecord) : Json :=
  .obj (viewMembers key r ++ [("children", .arr ((f.store.children key).map view))])

def healthView (f : Fleet) : Json :=
  .obj [("version", .str "0.1.0"), ("status", .str "operational"),
    ("tracked_resources", .num f.store.size)]

end FleetWatch.Api
