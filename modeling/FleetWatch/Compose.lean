import FleetWatch.Names
import FleetWatch.Text.LetterCase
import FleetWatch.Warning
import FleetWatch.Yaml.Value

/-! # Compose files

What the service needs of a compose file: the services that it declares, and those that are opted
out of health checks. A service is opted out by `exclude_from_hc: true` or by `restart: no`. A file
that cannot be used declares nothing and excludes nothing.
-/

namespace FleetWatch

namespace Yaml.Value

def untagged : Value → Value
  | .tagged _ value => value.untagged
  | value => value

/-- The pairs of a mapping, tagged or not. -/
def asMapping? (v : Value) : Option (List (Value × Value)) :=
  match v.untagged with
  | .mapping pairs => some pairs
  | _ => none

/-- The text of a string, tagged or not. -/
def asString? (v : Value) : Option String :=
  match v.untagged with
  | .string s => some s
  | _ => none

/-- The value under a key that is a plain string. -/
def entry? (name : String) : List (Value × Value) → Option Value
  | [] => none
  | (.string key, value) :: rest => if key = name then some value else entry? name rest
  | _ :: rest => entry? name rest

/-- The sort of a value, as warnings name it. -/
def kind : Value → NodeKind
  | null => .null
  | bool _ => .bool
  | number _ => .number
  | string _ => .string
  | sequence _ => .sequence
  | mapping _ => .mapping
  | tagged _ _ => .tagged

end Yaml.Value

open Yaml (Value)

/-- What the service needs of a compose file. -/
structure ComposeFile where
  /-- The declared services, in the order of the file. -/
  services : List String := []
  /-- The services that are excluded from health checks, in order. -/
  excluded : List String := []
  deriving DecidableEq, Repr

namespace ComposeFile

/-- The definition of a service asks for its exclusion by a flag of its own. -/
def flaggedOut (definition : List (Value × Value)) : Bool :=
  match Value.entry? "exclude_from_hc" definition with
  | some (.bool flag) => flag
  | some (.string s) => Text.lowerAscii s.toList == "true".toList
  | _ => false

/-- The definition of a service says that it is never restarted. The word `no` is a truth value in
older documents, and `false` is taken for it. -/
def neverRestarted (definition : List (Value × Value)) : Bool :=
  match Value.entry? "restart" definition with
  | some (.string policy) => Text.trimChars policy.toList == "no".toList
  | some (.bool flag) => !flag
  | _ => false

/-- The definition of a service opts it out of health checks. -/
def optsOut (definition : Value) : Bool :=
  match definition.asMapping? with
  | some pairs => flaggedOut pairs || neverRestarted pairs
  | none => false

/-- The names of the services in a mapping. -/
def declaredIn (services : List (Value × Value)) : List String :=
  services.filterMap fun (name, _) => name.asString?

/-- The names of the services in a mapping that are opted out. -/
def excludedIn (services : List (Value × Value)) : List String :=
  distinctSorted (services.filterMap fun (name, definition) =>
    if optsOut definition then name.asString? else none)

/-- The services of a document, with what is wrong about it. Exclusions are taken from a mapping
that has no tag. -/
def ofValue (document : Value) : ComposeFile × List Warning :=
  match document.asMapping? with
  | none =>
      match document.untagged with
      | .null => ({}, [])
      | _ => ({}, [.composeNotMapping document.kind])
  | some root =>
      match Value.entry? "services" root with
      | none => ({}, [])
      | some (.mapping pairs) =>
          ({ services := declaredIn pairs, excluded := excludedIn pairs }, [])
      | some .null => ({}, [])
      | some other =>
          ({ services := declaredIn (other.asMapping?.getD []) }, [.servicesNotMapping other.kind])

/-- The services of a compose file and the warnings about it. -/
def read (text : String) : ComposeFile × List Warning :=
  match Value.parse? text with
  | some document => ofValue document
  | none => ({}, [.unreadableCompose])

def parse (text : String) : ComposeFile := (read text).1

/-! ## What is excluded is declared -/

theorem excludedIn_subset_declaredIn (services : List (Value × Value)) :
    excludedIn services ⊆ declaredIn services := by
  intro name h
  rw [excludedIn, mem_distinctSorted, List.mem_filterMap] at h
  obtain ⟨⟨key, definition⟩, hmem, hname⟩ := h
  refine List.mem_filterMap.mpr ⟨(key, definition), hmem, ?_⟩
  exact (Option.ite_none_right_eq_some.mp hname).2

theorem excluded_subset_services_ofValue (document : Value) :
    (ofValue document).1.excluded ⊆ (ofValue document).1.services := by
  unfold ofValue
  split
  · split <;> exact List.nil_subset _
  · split
    · exact List.nil_subset _
    · exact excludedIn_subset_declaredIn _
    · exact List.nil_subset _
    · exact List.nil_subset _

/-- A file excludes only services that it declares. -/
theorem excluded_subset_services (text : String) :
    (parse text).excluded ⊆ (parse text).services := by
  unfold parse read
  split
  · exact excluded_subset_services_ofValue _
  · exact List.nil_subset _

end ComposeFile

end FleetWatch
