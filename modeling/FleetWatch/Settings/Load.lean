import FleetWatch.Settings.Reading
import FleetWatch.Settings.Validation
import FleetWatch.Text.Utf8
import FleetWatch.Toml.Document

/-! # Loading settings

Settings are loaded from a file: it must be there, be UTF-8, be a document of the right form, and
its settings must be valid.
-/

namespace FleetWatch

/-- Why settings could not be loaded. -/
inductive LoadError where
  | missing
  | notUtf8
  | parse
  | validation (problems : List SettingsProblem)
  deriving Repr

/-- The wording of an error, where it is the service's own. -/
def LoadError.message? : LoadError → Option String
  | missing => some "IO error: No such file or directory (os error 2)"
  | notUtf8 => some "IO error: stream did not contain valid UTF-8"
  | parse => none
  | validation problems =>
      some ("Validation failed: " ++
        String.intercalate ", " (problems.map SettingsProblem.message))

namespace Settings

/-- The settings, if nothing is wrong with them. -/
def validate (s : Settings) : Except LoadError Settings :=
  if s.problems.isEmpty then .ok s else .error (.validation s.problems)

def load (file : Option (List UInt8)) : Except LoadError Settings :=
  match file with
  | none => .error .missing
  | some bytes =>
      match Text.decodeUtf8? bytes with
      | none => .error .notUtf8
      | some text =>
          match (Toml.parse? (String.ofList text)).bind Settings.ofValue? with
          | none => .error .parse
          | some s => s.validate

end Settings

end FleetWatch
