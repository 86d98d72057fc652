/-! # JSON values

JSON values as the service writes them, and their compact and indented texts. Members keep the
order in which they are given. The only numbers are integers: the service writes no others.
-/

namespace FleetWatch

/-- A JSON value. -/
inductive Json where
  | null
  | bool (value : Bool)
  | num (value : Int)
  | str (text : String)
  | arr (items : List Json)
  | obj (members : List (String × Json))
  deriving Repr, Inhabited

namespace Json

def hexDigit (n : Nat) : Char := if n < 10 then Char.ofNat (48 + n) else Char.ofNat (87 + n)

/-- How a character is written inside a string: quotes, backslashes and control characters are
escaped, with the short escapes where there is one. -/
def escapeChar (c : Char) : List Char :=
  if c = '"' then ['\\', '"']
  else if c = '\\' then ['\\', '\\']
  else if c = '\n' then ['\\', 'n']
  else if c = '\r' then ['\\', 'r']
  else if c = '\t' then ['\\', 't']
  else if c.toNat = 8 then ['\\', 'b']
  else if c.toNat = 12 then ['\\', 'f']
  else if c.toNat < 32 then
    ['\\', 'u', '0', '0', hexDigit (c.toNat / 16), hexDigit (c.toNat % 16)]
  else [c]

def strText (s : String) : List Char := '"' :: s.toList.flatMap escapeChar ++ ['"']

def numText : Int → List Char
  | .ofNat n => Nat.toDigits 10 n
  | .negSucc n => '-' :: Nat.toDigits 10 (n + 1)

/-- The texts with a separator between any two. -/
def joinChars (sep : List Char) : List (List Char) → List Char
  | [] => []
  | [one] => one
  | first :: rest => first ++ sep ++ joinChars sep rest

mutual

/-- The text of a value without any white space. -/
def compactChars : Json → List Char
  | null => "null".toList
  | bool true => "true".toList
  | bool false => "false".toList
  | num n => numText n
  | str s => strText s
  | arr items => '[' :: joinChars [','] (compactItems items) ++ [']']
  | obj members => '{' :: joinChars [','] (compactMembers members) ++ ['}']

def compactItems : List Json → List (List Char)
  | [] => []
  | item :: rest => compactChars item :: compactItems rest

def compactMembers : List (String × Json) → List (List Char)
  | [] => []
  | (name, value) :: rest => (strText name ++ ':' :: compactChars value) :: compactMembers rest

end

/-- The text of a value without any white space. -/
def compact (j : Json) : String := String.ofList (compactChars j)

/-- A line break and an indentation of two spaces a level. -/
def newLine (level : Nat) : List Char := '\n' :: List.replicate (2 * level) ' '

mutual

/-- The text of a value on lines of its own, from the given level of indentation on. -/
def prettyChars (level : Nat) : Json → List Char
  | arr [] => ['[', ']']
  | obj [] => ['{', '}']
  | arr (item :: rest) =>
      '[' :: joinChars [','] (prettyItems (level + 1) (item :: rest)) ++ newLine level ++ [']']
  | obj (member :: rest) =>
      '{' :: joinChars [','] (prettyMembers (level + 1) (member :: rest)) ++ newLine level ++ ['}']
  | null => "null".toList
  | bool true => "true".toList
  | bool false => "false".toList
  | num n => numText n
  | str s => strText s

/-- The texts of items, each on a line of its own. -/
def prettyItems (level : Nat) : List Json → List (List Char)
  | [] => []
  | item :: rest => (newLine level ++ prettyChars level item) :: prettyItems level rest

/-- The texts of members, each on a line of its own. -/
def prettyMembers (level : Nat) : List (String × Json) → List (List Char)
  | [] => []
  | (name, value) :: rest =>
      (newLine level ++ strText name ++ [':', ' '] ++ prettyChars level value) ::
        prettyMembers level rest

end

/-- The text of a value, indented by two spaces a level. -/
def pretty (j : Json) : String := String.ofList (prettyChars 0 j)

mutual

/-- The value with the members of every object in the order of their names. -/
def sorted : Json → Json
  | arr items => arr (sortedItems items)
  | obj members => obj ((sortedMembers members).mergeSort fun a b => a.1 ≤ b.1)
  | other => other

def sortedItems : List Json → List Json
  | [] => []
  | item :: rest => sorted item :: sortedItems rest

/-- Members, each value with its members in order. -/
def sortedMembers : List (String × Json) → List (String × Json)
  | [] => []
  | (name, value) :: rest => (name, sorted value) :: sortedMembers rest

end

def ofOption : Option String → Json
  | some s => str s
  | none => null

end Json

end FleetWatch
