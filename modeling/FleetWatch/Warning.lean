/-! # Warnings

What the service gives notice of while it goes on: inputs that it can use only in part or not at
all.
-/

namespace FleetWatch

/-- The sort of a document node, as warnings name it. -/
inductive NodeKind where
  | null
  | bool
  | number
  | string
  | sequence
  | mapping
  | tagged
  deriving DecidableEq, Repr

def NodeKind.text : NodeKind → String
  | null => "null"
  | bool => "bool"
  | number => "number"
  | string => "string"
  | sequence => "sequence"
  | mapping => "mapping"
  | tagged => "tagged"

/-- Something the service gives notice of. -/
inductive Warning where
  /-- A restart count below zero, which is taken as none. -/
  | negativeRestarts (count : Int)
  /-- An inspected container without a usable lifecycle state, which is left out. -/
  | unrecognizedState (container : String) (state : String)
  /-- A compose file that cannot be read as a document. -/
  | unreadableCompose
  /-- A compose file whose top level is no mapping. -/
  | composeNotMapping (kind : NodeKind)
  /-- A compose file whose services are no mapping. -/
  | servicesNotMapping (kind : NodeKind)
  deriving DecidableEq, Repr

def Warning.message : Warning → String
  | negativeRestarts _ => "Negative max restart count, crash-loop detection disabled"
  | unrecognizedState _ _ => "Ignoring container with unrecognized lifecycle state"
  | unreadableCompose => "Failed to parse compose file, assuming no health check exclusions"
  | composeNotMapping _ => "Compose top level is not a mapping, assuming no health check exclusions"
  | servicesNotMapping _ => "Compose `services` is not a mapping, assuming no health check exclusions"

end FleetWatch
