import FleetWatch.Container.State
import FleetWatch.Text.Fields

/-! # What one container contributes

A container, or a resource that was aggregated before, enters the decision table as a token. A
token is read from a status text in one of two forms, `base:qualifier[:more]` and
`base (qualifier[, more])`; the second form is tried first, so an opening parenthesis ends the base
wherever it stands. Once the base is recognized, an unreadable qualifier only means that the health
is not known.
-/

namespace FleetWatch

/-- What one container, or one resource that was aggregated before, says about the whole. -/
inductive StatusToken where
  /-- A resource that is degraded already. -/
  | degraded
  | container (state : Lifecycle) (health : Option Health)
  deriving DecidableEq, Repr

namespace StatusToken

/-- The base and the qualifier of a status text, each trimmed. After an opening parenthesis the
qualifier ends at the first comma, and the closing parentheses at the end of the text do not
belong to it. -/
def split (s : List Char) : List Char × Option (List Char) :=
  match Text.cut '(' s with
  | some (base, rest) =>
      let inner := Text.dropEnd (· == ')') (Text.dropEnd Text.isBlank rest)
      (Text.trimChars base, some (Text.trimChars (Text.upTo ',' inner)))
  | none =>
      match Text.fieldsOf ':' s with
      | base :: qualifier :: _ => (Text.trimChars base, some (Text.trimChars qualifier))
      | base :: [] => (Text.trimChars base, none)
      | [] => ([], none)

/-- The token of a base and a qualifier. -/
def ofParts? (base : List Char) (qualifier : Option (List Char)) : Option StatusToken :=
  if String.ofList base = "degraded" then some .degraded
  else
    (Lifecycle.parse? (String.ofList base)).map fun state =>
      .container state (qualifier.bind fun q => Health.parse? (String.ofList q))

/-- Reads the token of a status text. There is none for a text without a recognized base, and
none for `unknown`, which says nothing about containers. -/
def parse? (raw : String) : Option StatusToken :=
  let (base, qualifier) := split (Text.lowerAscii (Text.trimChars raw.toList))
  ofParts? base qualifier

def state? : StatusToken → Option Lifecycle
  | degraded => none
  | container state _ => some state

end StatusToken

end FleetWatch
