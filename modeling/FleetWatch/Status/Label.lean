import FleetWatch.Status
import FleetWatch.Text.LetterCase

/-! # Labels for people

How a status is shown: `running:unhealthy:excluded` as "Running (unhealthy, excluded)". A text
that is not a status is given the same treatment as far as it goes, and one that belongs to a
proxy is shown as it is.
-/

namespace FleetWatch

/-- The word as a title: a space before every upper-case character but the first, and the first
character capitalized. -/
def headline : List Char → List Char
  | [] => []
  | first :: rest =>
      Text.capital first ++ rest.flatMap fun c => if Text.isUpper c then [' ', c] else [c]

def labelOf (status : String) : String :=
  if "Proxy:".toList.isPrefixOf status.toList || status.isEmpty then status
  else
    match Text.fieldsOf ':' status.toList with
    | [] => ""
    | [base] => String.ofList (headline base)
    | base :: qualifier :: rest =>
        let tag := if rest.head? = some Status.excludedTag.toList then ", excluded".toList else []
        String.ofList (headline base ++ " (".toList ++ qualifier ++ tag ++ [')'])

def Status.label (s : Status) : String := labelOf s.text

end FleetWatch
