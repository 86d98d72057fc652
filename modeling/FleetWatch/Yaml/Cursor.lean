/-! # Positions in a document

A cursor is what is left of a document together with its position, counted in characters. Blanks
are spaces and tabs; a line ends at a line feed, a carriage return, both together, or one of the
characters `U+0085`, `U+2028` and `U+2029`.
-/

namespace FleetWatch.Yaml

/-- What is left of a document, and where it starts. -/
structure Cursor where
  rest : List Char
  index : Nat := 0
  line : Nat := 0
  column : Nat := 0

def isBlank (c : Char) : Bool := c == ' ' || c == '\t'

def isBreak (c : Char) : Bool :=
  c == '\r' || c == '\n' || c.toNat == 0x85 || c.toNat == 0x2028 || c.toNat == 0x2029

/-- The characters of a word: no blank and no line break. -/
def isSolid (c : Char) : Bool := !isBlank c && !isBreak c

/-- The characters of names: letters, digits, underscore and hyphen, in ASCII. -/
def isNameChar (c : Char) : Bool := c.isAlphanum || c == '_' || c == '-'

def isAllowed (c : Char) : Bool :=
  let n := c.toNat
  n == 0x09 || n == 0x0A || n == 0x0D || (0x20 ≤ n && n ≤ 0x7E) || n == 0x85 ||
    (0xA0 ≤ n && n ≤ 0xD7FF) || (0xE000 ≤ n && n ≤ 0xFFFD) || 0x10000 ≤ n

namespace Cursor

def start (text : String) : Cursor := { rest := text.toList }

def peek? (c : Cursor) (n : Nat) : Option Char := c.rest[n]?

/-- The given character is at the given distance. -/
def has (c : Cursor) (n : Nat) (ch : Char) : Bool := c.peek? n == some ch

/-- At the given distance there is a blank, a line break or the end. -/
def isGapAt (c : Cursor) (n : Nat) : Bool :=
  match c.peek? n with
  | none => true
  | some ch => !isSolid ch

def next (c : Cursor) (p : Char → Bool) : Bool := (c.peek? 0).any p

def atEnd (c : Cursor) : Bool := c.rest.isEmpty

def atLineEnd (c : Cursor) : Bool := c.atEnd || c.next isBreak

/-- The cursor after the given number of characters of the same line. -/
def skip (c : Cursor) (n : Nat) : Cursor :=
  { c with rest := c.rest.drop n, index := c.index + n, column := c.column + n }

/-- The characters up to the first that does not satisfy the predicate, and the cursor there. -/
def span (c : Cursor) (p : Char → Bool) : List Char × Cursor :=
  let taken := c.rest.takeWhile p
  (taken, c.skip taken.length)

/-- The cursor at the first character that does not satisfy the predicate. -/
def skipWhile (c : Cursor) (p : Char → Bool) : Cursor := (c.span p).2

/-- The line break here, in the form it has in text, and the start of the next line. All breaks
read as a line feed except the line and paragraph separators. -/
def takeBreak (c : Cursor) : List Char × Cursor :=
  let after (n : Nat) (rest : List Char) : Cursor :=
    { rest, index := c.index + n, line := c.line + 1, column := 0 }
  match c.rest with
  | '\r' :: '\n' :: rest => (['\n'], after 2 rest)
  | ch :: rest =>
      if ch.toNat == 0x2028 || ch.toNat == 0x2029 then ([ch], after 1 rest)
      else if isBreak ch then (['\n'], after 1 rest)
      else ([], c)
  | [] => ([], c)

/-- The start of the next line, if the line ends here. -/
def skipBreak (c : Cursor) : Cursor := c.takeBreak.2

/-- A line that starts with three of the given character and then a gap starts here. -/
def atMarker (c : Cursor) (ch : Char) : Bool :=
  c.column == 0 && c.has 0 ch && c.has 1 ch && c.has 2 ch && c.isGapAt 3

def atDocumentMarker (c : Cursor) : Bool := c.atMarker '-' || c.atMarker '.'

/-- The cursor after blanks and a comment, with which a line may end. -/
def skipLineTail (c : Cursor) : Cursor :=
  let c := c.skipWhile isBlank
  if c.has 0 '#' then c.skipWhile fun ch => !isBreak ch else c

end Cursor

end FleetWatch.Yaml
