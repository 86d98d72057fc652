import FleetWatch.Http.Target
import FleetWatch.Text.Fields

/-! # Routes

What the paths of the service stand for. The segments of a path are matched as they are written;
those that name a resource are decoded after that. A trailing slash makes another path.
-/

namespace FleetWatch.Api

/-- What a path stands for. -/
inductive Route where
  | health
  | resources
  /-- One resource, by the segments of its kind and its id. -/
  | resource (kind id : List Char)
  | push
  /-- The deployment of a resource, by the segments of its kind and its id. -/
  | deploying (kind id : List Char)
  deriving DecidableEq, Repr

/-- The route that the segments of a path name. The last segment of a path is not empty. -/
def Route.ofSegments? : List String → Option Route
  | ["", "api", "health"] => some .health
  | ["", "api", "resources"] => some .resources
  | ["", "api", "agent", "push"] => some .push
  | ["", "api", "resources", kind, id] =>
      if id.isEmpty then none else some (.resource kind.toList id.toList)
  | ["", "api", "resources", kind, id, "deploying"] =>
      some (.deploying kind.toList id.toList)
  | _ => none

def Route.ofPath? (path : List Char) : Option Route :=
  Route.ofSegments? (Text.fields '/' (String.ofList path))

end FleetWatch.Api
