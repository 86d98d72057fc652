import FleetWatch.Text.Fields
import FleetWatch.Text.Quoted

/-! # Aggregate status

The status of one resource: a base, a health qualifier if there is one, and whether it was
computed from containers that are excluded from health checks. Its written form is
`<base>[:<qualifier>][:excluded]`, and `Status.parse?` reads exactly the written forms.
-/

namespace FleetWatch

/-- What a resource is doing as a whole. -/
inductive Base where
  | running
  | degraded
  | starting
  | paused
  | exited
  | unknown
  deriving DecidableEq, Repr

namespace Base

def text : Base → String
  | running => "running"
  | degraded => "degraded"
  | starting => "starting"
  | paused => "paused"
  | exited => "exited"
  | unknown => "unknown"

def ofText? : String → Option Base
  | "running" => some running
  | "degraded" => some degraded
  | "starting" => some starting
  | "paused" => some paused
  | "exited" => some exited
  | "unknown" => some unknown
  | _ => none

theorem ofText?_text (b : Base) : ofText? b.text = some b := by cases b <;> rfl

end Base

/-- What the health checks of a resource say as a whole. -/
inductive Qualifier where
  | healthy
  | unhealthy
  | unknown
  deriving DecidableEq, Repr

namespace Qualifier

def text : Qualifier → String
  | healthy => "healthy"
  | unhealthy => "unhealthy"
  | unknown => "unknown"

def ofText? : String → Option Qualifier
  | "healthy" => some healthy
  | "unhealthy" => some unhealthy
  | "unknown" => some unknown
  | _ => none

theorem ofText?_text (q : Qualifier) : ofText? q.text = some q := by cases q <;> rfl

end Qualifier

/-- The status of one resource. -/
structure Status where
  base : Base
  qualifier : Option Qualifier := none
  /-- The status was computed from containers that are excluded from health checks. -/
  excluded : Bool := false
  deriving DecidableEq, Repr

namespace Status

/-- The last part of the written form of a status that is excluded. -/
def excludedTag : String := "excluded"

/-- `running` with the given health. -/
def running (q : Qualifier) : Status := ⟨.running, some q, false⟩

/-- `degraded:unhealthy`. -/
def degraded : Status := ⟨.degraded, some .unhealthy, false⟩

/-- `starting:unknown`. -/
def starting : Status := ⟨.starting, some .unknown, false⟩

/-- `paused:unknown`. -/
def paused : Status := ⟨.paused, some .unknown, false⟩

/-- `exited`, which is also the status of no containers at all. -/
def exited : Status := ⟨.exited, none, false⟩

/-- `unknown:unknown:excluded`, the status when there is no excluded container to look at. -/
def unknownExcluded : Status := ⟨.unknown, some .unknown, true⟩

/-- `starting:unhealthy`, the status of a resource while it is being deployed. -/
def deploying : Status := ⟨.starting, some .unhealthy, false⟩

def tagged (s : Status) : Status := { s with excluded := true }

def isRunning (s : Status) : Bool := s.base == .running

/-- The status calls for an alert: it is not excluded, and it is degraded or unhealthy. -/
def isUnhealthy (s : Status) : Bool :=
  !s.excluded && (s.base == .degraded || s.qualifier == some .unhealthy)

def parts (s : Status) : List String :=
  s.base.text :: (s.qualifier.map Qualifier.text).toList ++
    (if s.excluded then [excludedTag] else [])

/-- The written form: the parts joined by colons. -/
def text (s : Status) : String := String.intercalate ":" s.parts

def ofParts? : List String → Option Status
  | [b] => do return ⟨← Base.ofText? b, none, false⟩
  | [b, q] => do
      let base ← Base.ofText? b
      if q = excludedTag then return ⟨base, none, true⟩
      return ⟨base, some (← Qualifier.ofText? q), false⟩
  | [b, q, x] => do
      let base ← Base.ofText? b
      let qualifier ← Qualifier.ofText? q
      if x = excludedTag then return ⟨base, some qualifier, true⟩ else none
  | _ => none

def parse? (s : String) : Option Status := ofParts? (Text.fields ':' s)

/-- A text is not the written form of a status. -/
structure ParseError where
  text : String
  deriving DecidableEq, Repr

/-- The wording of the error, which quotes the text. -/
def ParseError.message (e : ParseError) : String :=
  "invalid aggregate status: " ++ Text.quoted e.text

/-- Reads a status and reports a text that is not one. -/
def parse (s : String) : Except ParseError Status :=
  match parse? s with
  | some status => .ok status
  | none => .error ⟨s⟩

/-- The status as the status of excluded containers. `exited` says nothing about health and stays
as it is; a tagged base other than `running` carries no qualifier. -/
def forExcluded (s : Status) : Status :=
  if s.excluded then s
  else
    match s.base with
    | .exited => s
    | .degraded | .paused | .starting => ⟨s.base, none, true⟩
    | .running => s.tagged
    | .unknown => unknownExcluded

end Status

end FleetWatch
