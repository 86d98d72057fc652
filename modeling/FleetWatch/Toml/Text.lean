import FleetWatch.Number.Digits

/-! # Texts of a TOML document

White space, comments, keys and strings. Each reader gives what it read and what follows, or nothing
where the text is not well formed. A line ends with a line feed, before which a carriage return may
stand; inside strings of several lines both read as a line feed.
-/

namespace FleetWatch.Toml

/-- A reader takes something from the front of a text. -/
abbrev Read (α : Type) := List Char → Option (α × List Char)

def isBlank (c : Char) : Bool := c == ' ' || c == '\t'

/-- A character that may stand in a comment and, unless it has a meaning there, in a string. -/
def isText (c : Char) : Bool := (0x20 ≤ c.toNat && c.toNat != 0x7F) || c == '\t'

def skipBlanks (s : List Char) : List Char := s.dropWhile isBlank

def lineEnd? : List Char → Option (List Char)
  | '\n' :: rest => some rest
  | '\r' :: '\n' :: rest => some rest
  | _ => none

/-- What follows the end of a line or of the document. -/
def lineOrTextEnd? (s : List Char) : Option (List Char) :=
  if s.isEmpty then some [] else lineEnd? s

/-- The text without a comment at its front. -/
def skipComment (s : List Char) : List Char :=
  match s with
  | '#' :: rest => rest.dropWhile isText
  | _ => s

/-- What follows a line that holds nothing more but blanks and a comment. -/
def restOfLine? (s : List Char) : Option (List Char) := lineOrTextEnd? (skipComment (skipBlanks s))

def skipGap : Nat → List Char → Option (List Char)
  | 0, _ => none
  | steps + 1, s =>
      let s := skipBlanks s
      match s with
      | '#' :: _ => (lineEnd? (skipComment s)).bind (skipGap steps)
      | '\n' :: _ => (lineEnd? s).bind (skipGap steps)
      | '\r' :: _ => (lineEnd? s).bind (skipGap steps)
      | _ => some s

/-! ## Strings -/

def letterEscape? : Char → Option Char
  | 'b' => some (Char.ofNat 0x08)
  | 't' => some '\t'
  | 'n' => some '\n'
  | 'f' => some (Char.ofNat 0x0C)
  | 'r' => some '\r'
  | '"' => some '"'
  | '\\' => some '\\'
  | _ => none

/-- The character with a code of so many hexadecimal digits. -/
def hexEscape (size : Nat) : Read Char := fun s =>
  let digits := s.take size
  if digits.length < size then none
  else
    (natOfDigits? 16 digits).bind fun n =>
      if (0xD800 ≤ n && n ≤ 0xDFFF) || 0x10FFFF < n then none
      else some (Char.ofNat n, s.drop size)

/-- The character of an escape, after its backslash. -/
def escape : Read Char
  | 'u' :: rest => hexEscape 4 rest
  | 'U' :: rest => hexEscape 8 rest
  | c :: rest => (letterEscape? c).map fun e => (e, rest)
  | [] => none

/-- A string on one line, after its opening quote. Only in double quotes are there escapes. -/
def lineString (quote : Char) : Nat → Read (List Char)
  | 0, _ => none
  | steps + 1, s =>
      match s with
      | [] => none
      | c :: rest =>
          if c = quote then some ([], rest)
          else if c = '\\' && quote = '"' then
            (escape rest).bind fun (e, rest) =>
              (lineString quote steps rest).map fun (cs, rest) => (e :: cs, rest)
          else if isText c then
            (lineString quote steps rest).map fun (cs, rest) => (c :: cs, rest)
          else none

/-- The text without blanks and line ends at its front. -/
def skipLines : List Char → List Char
  | '\n' :: rest => skipLines rest
  | '\r' :: '\n' :: rest => skipLines rest
  | c :: rest => if isBlank c then skipLines rest else c :: rest
  | [] => []

/-- What follows blanks and line ends, if a line ends before anything else. -/
def escapedGap? (s : List Char) : Option (List Char) := (lineEnd? (skipBlanks s)).map skipLines

/-- A string of several lines, after its opening quotes. Up to two quotes may stand before those
that close it. Only in double quotes are there escapes; one at the end of a line joins it with the
next text. -/
def blockString (quote : Char) : Nat → Read (List Char)
  | 0, _ => none
  | steps + 1, s =>
      let more (taken : List Char) (rest : List Char) : Option (List Char × List Char) :=
        (blockString quote steps rest).map fun (cs, rest) => (taken ++ cs, rest)
      match s with
      | [] => none
      | c :: rest =>
          if c = quote then
            match (rest.takeWhile (· == quote)).length with
            | 0 => more [c] rest
            | 1 => more [c, c] (rest.drop 1)
            | 2 => some ([], rest.drop 2)
            | 3 => some ([c], rest.drop 3)
            | _ => some ([c, c], rest.drop 4)
          else if c = '\\' && quote = '"' then
            match escapedGap? rest with
            | some rest => more [] rest
            | none => (escape rest).bind fun (e, rest) => more [e] rest
          else
            match lineEnd? s with
            | some rest => more ['\n'] rest
            | none => if isText c then more [c] rest else none

/-- A string, at its opening quotes. A line end right after the quotes of a string of several lines
does not belong to it. -/
def string (quote : Char) : Read String := fun s =>
  let read : Option (List Char × List Char) :=
    if [quote, quote, quote].isPrefixOf s then
      let body := s.drop 3
      blockString quote (s.length + 1) ((lineEnd? body).getD body)
    else lineString quote (s.length + 1) (s.drop 1)
  read.map fun (cs, rest) => (String.ofList cs, rest)

/-! ## Keys -/

def isKeyChar (c : Char) : Bool := c.isAlphanum || c == '_' || c == '-'

def simpleKey : Read String := fun s =>
  match s with
  | '"' :: rest => (lineString '"' s.length rest).map fun (cs, rest) => (String.ofList cs, rest)
  | '\'' :: rest => (lineString '\'' s.length rest).map fun (cs, rest) => (String.ofList cs, rest)
  | _ =>
      let name := s.takeWhile isKeyChar
      if name.isEmpty then none else some (String.ofList name, s.dropWhile isKeyChar)

/-- The parts of a key with points between them, and blanks around each. -/
def keyParts : Nat → Read (List String)
  | 0, _ => none
  | steps + 1, s =>
      (simpleKey (skipBlanks s)).bind fun (first, rest) =>
        match skipBlanks rest with
        | '.' :: rest => (keyParts steps rest).map fun (more, rest) => (first :: more, rest)
        | rest => some ([first], rest)

/-- A key: fewer than eighty parts. -/
def key : Read (List String) := fun s =>
  (keyParts (s.length + 1) s).filter fun (parts, _) => parts.length < 80

end FleetWatch.Toml
