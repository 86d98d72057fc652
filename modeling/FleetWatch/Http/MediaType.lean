import FleetWatch.Http.Request

/-! # Media types

Which content types announce JSON: `application/json`, and subtypes of `application` that have the
word `json` before or after their last plus sign. Parameters may follow; a semicolon without any
belongs to the subtype.
-/

namespace FleetWatch.Http

def isQuotedChar (c : Char) : Bool := 31 < c.toNat && c.toNat != 127

/-- The blanks after a quoted parameter, and what follows the semicolon after them; nothing follows
at the end. -/
def afterQuoted (s : List Char) : Option (List Char) :=
  match s.dropWhile (· == ' ') with
  | [] => some []
  | ';' :: rest => some rest
  | _ => none

/-- What follows a parameter's value: a token, which may be missing at the end only, or characters
in quotes. The first of these may itself be a quote. -/
def afterValue : List Char → Option (List Char)
  | [] => some []
  | '"' :: first :: s =>
      let content := first :: s.takeWhile (· != '"')
      match s.dropWhile (· != '"') with
      | [] => none
      | _ :: rest => if content.all isQuotedChar then afterQuoted rest else none
  | s =>
      match s.takeWhile isTokenChar, s.dropWhile isTokenChar with
      | _, [] => some []
      | _ :: _, ';' :: rest => some rest
      | _, _ => none

/-- Whether there are parameters, if all are well formed. -/
def hasParameters? : Nat → List Char → Option Bool
  | 0, _ => none
  | _ + 1, [] => some false
  | steps + 1, ' ' :: s => hasParameters? steps s
  | steps + 1, s =>
      match s.takeWhile isTokenChar, s.dropWhile isTokenChar with
      | _ :: _, '=' :: value =>
          (afterValue value).bind fun rest => (hasParameters? steps rest).map fun _ => true
      | _, _ => none

/-- The parts of a text before and after the last of a character. -/
def cutLast (c : Char) (s : List Char) : Option (List Char × List Char) :=
  match s.reverse.dropWhile (· != c) with
  | [] => none
  | _ :: before => some (before.reverse, (s.reverse.takeWhile (· != c)).reverse)

/-- A subtype announces JSON. A plus sign at its start is part of the first word. -/
def isJsonSubtype (s : List Char) : Bool :=
  let isJson (word : List Char) : Bool := Text.lowerAscii word == "json".toList
  match s with
  | [] => false
  | first :: rest =>
      match cutLast '+' rest with
      | some (before, after) => isJson (first :: before) || isJson after
      | none => isJson s

def isJsonType (value : String) : Bool :=
  let s := value.toList
  match s.dropWhile isTokenChar with
  | '/' :: rest =>
      let subtype := rest.takeWhile isTokenChar
      let end? : Option (List Char) :=
        match rest.dropWhile isTokenChar with
        | [] => some []
        | c :: parameters =>
            if (c == ';' || c == ' ') && !subtype.isEmpty then
              (hasParameters? (parameters.length + 1) parameters).map fun found =>
                if found then [] else c :: parameters
            else none
      match end? with
      | some tail =>
          Text.lowerAscii (s.takeWhile isTokenChar) == "application".toList &&
            isJsonSubtype (subtype ++ tail)
      | none => false
  | _ => false

end FleetWatch.Http
