import FleetWatch.Text.Utf8
import FleetWatch.Yaml.Scalar

/-! # Tokens of a document

A document as a list of tokens. Indentation opens and closes blocks. A mapping key may turn out to
be one only when the colon after it is seen, so its position is remembered as a candidate: the
candidate must stand on one line, within 1024 characters of the colon.
-/

namespace FleetWatch.Yaml

/-- A token of a document. -/
inductive Token where
  | version (major minor : Nat)
  | tagDirective (handle : String) (lead : String)
  | documentStart
  | documentEnd
  | blockSequence
  | blockMapping
  | blockEnd
  | openSequence
  | closeSequence
  | openMapping
  | closeMapping
  | entry
  | separator
  | key
  | value
  | reference (name : String)
  | anchor (name : String)
  | tag (handle : String) (suffix : String)
  | scalar (text : String) (plain : Bool)
  deriving DecidableEq, Repr

/-- A place where a mapping key may have started. -/
structure Candidate where
  possible : Bool := false
  /-- If no colon follows, the document is in error. -/
  required : Bool := false
  /-- How many tokens stand before it. -/
  position : Nat := 0
  index : Nat := 0
  line : Nat := 0
  column : Nat := 0

/-- The state of the division into tokens. -/
structure Scan where
  /-- What has not been divided yet. -/
  here : Cursor
  tokens : Array Token := #[]
  /-- The column of the innermost block, below zero outside of all blocks. -/
  indent : Int := -1
  outer : List Int := []
  /-- How many brackets are open. -/
  depth : Nat := 0
  /-- The candidate of each open bracket, the innermost first, and of the blocks at the end. -/
  candidates : List Candidate := [{}]
  /-- A mapping key may start here. -/
  keyAllowed : Bool := true

namespace Scan

def inFlow (s : Scan) : Bool := s.depth != 0

def emit (s : Scan) (t : Token) : Scan := { s with tokens := s.tokens.push t }

/-- Adds a token at a position, or at the end. -/
def emitAt (s : Scan) (position : Option Nat) (t : Token) : Scan :=
  match position with
  | some n =>
      { s with tokens := (s.tokens.extract 0 n).push t ++ s.tokens.extract n s.tokens.size }
  | none => s.emit t

def advance (s : Scan) (n : Nat) : Scan := { s with here := s.here.skip n }

/-- Opens a block at a column to the right of the innermost one. -/
def roll (s : Scan) (column : Nat) (position : Option Nat) (t : Token) : Scan :=
  if !s.inFlow && s.indent < (column : Int) then
    { s.emitAt position t with indent := column, outer := s.indent :: s.outer }
  else s

/-- Closes the blocks to the right of a column. -/
def unroll (s : Scan) (column : Int) : List Int → Scan
  | [] => s
  | up :: outer =>
      if !s.inFlow && column < s.indent then
        unroll { s.emit .blockEnd with indent := up, outer } column outer
      else s

/-- Closes the blocks to the right of a column. -/
def closeBlocks (s : Scan) (column : Int) : Scan := s.unroll column s.outer

/-- Gives up the innermost candidate, which must not be required. -/
def dropCandidate (s : Scan) : Option Scan :=
  match s.candidates with
  | c :: rest =>
      if c.possible && c.required then none
      else some { s with candidates := { c with possible := false } :: rest }
  | [] => some s

/-- Makes the present position the innermost candidate if a key may start here. It is required in
a block, at the column of the block. -/
def saveCandidate (s : Scan) : Option Scan :=
  if s.keyAllowed then do
    let s ← s.dropCandidate
    let candidate : Candidate :=
      { possible := true
        required := !s.inFlow && s.indent == (s.here.column : Int)
        position := s.tokens.size
        index := s.here.index
        line := s.here.line
        column := s.here.column }
    return { s with candidates := candidate :: s.candidates.tail }
  else some s

/-- Gives up the candidates that are out of reach: on an earlier line or too far away. -/
def dropStale (s : Scan) : Option Scan := do
  let fresh ← s.candidates.mapM fun c =>
    if c.possible && (c.line < s.here.line || c.index + 1024 < s.here.index) then
      if c.required then none else some { c with possible := false }
    else some c
  return { s with candidates := fresh }

/-- Passes over white space, comments and line ends. Outside of brackets a tab may not stand where
a key may start, and a new line may start a key. -/
def skipGap : Nat → Scan → Scan
  | 0, s => s
  | steps + 1, s =>
      let c := if s.here.index == 0 && s.here.next (·.toNat == 0xFEFF) then s.here.skip 1 else s.here
      let tabs := s.inFlow || !s.keyAllowed
      let c := c.skipWhile fun ch => ch == ' ' || (tabs && ch == '\t')
      let c := if c.has 0 '#' then c.skipWhile fun ch => !isBreak ch else c
      if c.next isBreak then
        skipGap steps { s with here := c.skipBreak, keyAllowed := s.keyAllowed || !s.inFlow }
      else { s with here := c }

/-- The value of the escapes `%XX` here, as bytes, and the cursor after them. -/
def percentBytes : List Char → List UInt8 × List Char
  | '%' :: a :: b :: rest =>
      match natOfDigits? 16 [a, b] with
      | some n =>
          let (bytes, rest) := percentBytes rest
          (n.toUInt8 :: bytes, rest)
      | none => ([], '%' :: a :: b :: rest)
  | rest => ([], rest)

/-- The characters of a tag besides names' characters, letters and digits. -/
def isTagMark (c : Char) : Bool := ";/?:@&=+$.%!~*'()".toList.contains c

/-- The text of a tag and what follows it; `verbatim` admits brackets and commas. -/
def tagText (verbatim : Bool) : Nat → List Char → Option (List Char × Nat × List Char)
  | 0, s => some ([], 0, s)
  | steps + 1, s =>
      match s with
      | [] => some ([], 0, [])
      | '%' :: _ =>
          let (bytes, rest) := percentBytes s
          if bytes.isEmpty then none
          else
            match Text.decodeUtf8? bytes with
            | none => none
            | some text =>
                (tagText verbatim steps rest).map fun (more, n, rest) =>
                  (text ++ more, n + 3 * bytes.length, rest)
      | c :: rest =>
          if isNameChar c || isTagMark c || (verbatim && (c == ',' || c == '[' || c == ']')) then
            (tagText verbatim steps rest).map fun (more, n, rest) => (c :: more, n + 1, rest)
          else some ([], 0, c :: rest)

/-- The text of a tag at a cursor. -/
def tagTextAt (verbatim : Bool) (c : Cursor) : Option (List Char × Cursor) :=
  (tagText verbatim (c.rest.length + 1) c.rest).map fun (text, n, _) => (text, c.skip n)

/-- A tag handle: `!`, `!!` or `!name!`. Without the mark at its end it may be the start of a
tag. -/
def handleAt (c : Cursor) : Option (List Char × Cursor) :=
  if c.has 0 '!' then
    let (name, after) := (c.skip 1).span isNameChar
    if after.has 0 '!' then some ('!' :: name ++ ['!'], after.skip 1)
    else some ('!' :: name, after)
  else none

/-- A tag between angle brackets, at its mark. -/
def verbatimTag (c : Cursor) : Option (List Char × List Char × Cursor) := do
  let (suffix, c) ← tagTextAt true (c.skip 2)
  if suffix.isEmpty || !c.has 0 '>' then none
  return ([], suffix, c.skip 1)

/-- A tag with a handle, at its mark. What looks like a handle without a mark at its end is part of
the suffix; a mark alone is a tag of its own. -/
def shortTag (c : Cursor) : Option (List Char × List Char × Cursor) := do
  let (handle, after) ← handleAt c
  let (suffix, c) ← tagTextAt false after
  if 1 < handle.length && handle.getLast? == some '!' then
    if suffix.isEmpty then none else some (handle, suffix, c)
  else
    let suffix := handle.drop 1 ++ suffix
    if suffix.isEmpty then some ([], ['!'], c) else some (['!'], suffix, c)

/-- A tag: its handle and its suffix. -/
def tagAt (flow : Bool) (c : Cursor) : Option (Token × Cursor) := do
  let (handle, suffix, c) ← if c.has 1 '<' then verbatimTag c else shortTag c
  if (!flow || !c.has 0 ',') && !c.isGapAt 0 then none
  return (.tag (String.ofList handle) (String.ofList suffix), c)

/-- A number of a version: one to nine digits. -/
def versionNumber (c : Cursor) : Option (Nat × Cursor) :=
  let (digits, c) := c.span Char.isDigit
  if digits.isEmpty || 9 < digits.length then none else some (decimalValue digits, c)

/-- The version that a directive gives, after its name. -/
def versionAt (c : Cursor) : Option (Token × Cursor) := do
  let (major, c) ← versionNumber (c.skipWhile isBlank)
  if !c.has 0 '.' then none
  let (minor, c) ← versionNumber (c.skip 1)
  return (.version major minor, c)

/-- The handle and the start of tags that a directive gives, after its name. -/
def tagDirectiveAt (c : Cursor) : Option (Token × Cursor) := do
  let (handle, c) ← handleAt (c.skipWhile isBlank)
  if handle.length != 1 && handle.getLast? != some '!' then none
  if !c.next isBlank then none
  let (lead, c) ← tagTextAt true (c.skipWhile isBlank)
  if lead.isEmpty || !c.isGapAt 0 then none
  return (.tagDirective (String.ofList handle) (String.ofList lead), c)

/-- A directive, after its percent sign, with the rest of its line. -/
def directiveAt (c : Cursor) : Option (Token × Cursor) := do
  let (name, c) := c.span isNameChar
  if name.isEmpty || !c.isGapAt 0 then none
  let (token, c) ←
    if name == "YAML".toList then versionAt c
    else if name == "TAG".toList then tagDirectiveAt c
    else none
  let c := c.skipLineTail
  if !c.atLineEnd then none
  return (token, c.skipBreak)

/-- The name of an anchor or an alias, after its mark. -/
def anchorAt (c : Cursor) : Option (String × Cursor) :=
  let (name, c) := c.span isNameChar
  let ends := c.isGapAt 0 || c.next fun ch => "?:,]\x7d%@\x60".toList.contains ch
  if name.isEmpty || !ends then none else some (String.ofList name, c)

def marker (s : Scan) (t : Token) : Option Scan := do
  let s ← (s.closeBlocks (-1)).dropCandidate
  return ({ s with keyAllowed := false }.advance 3).emit t

def openBracket (s : Scan) (t : Token) : Option Scan := do
  let s ← s.saveCandidate
  return ({ s with
    candidates := {} :: s.candidates, depth := s.depth + 1, keyAllowed := true }.advance 1).emit t

def closeBracket (s : Scan) (t : Token) : Option Scan := do
  let s ← s.dropCandidate
  let s := if s.inFlow then { s with depth := s.depth - 1, candidates := s.candidates.tail } else s
  return ({ s with keyAllowed := false }.advance 1).emit t

/-- A hyphen that starts an item of a block. -/
def blockEntry (s : Scan) : Option Scan := do
  if !s.inFlow && !s.keyAllowed then none
  let s ← (s.roll s.here.column none .blockSequence).dropCandidate
  return ({ s with keyAllowed := true }.advance 1).emit .entry

def keyMark (s : Scan) : Option Scan := do
  if !s.inFlow && !s.keyAllowed then none
  let s ← (s.roll s.here.column none .blockMapping).dropCandidate
  return ({ s with keyAllowed := !s.inFlow }.advance 1).emit .key

/-- A colon that starts a value. If there is a candidate, it is the key. -/
def valueMark (s : Scan) : Option Scan := do
  let candidate := s.candidates.headD {}
  let s ←
    if candidate.possible then
      let s := s.emitAt (some candidate.position) .key
      let s := s.roll candidate.column (some candidate.position) .blockMapping
      some { s with
        candidates := { candidate with possible := false } :: s.candidates.tail
        keyAllowed := false }
    else if s.inFlow then some { s with keyAllowed := false }
    else if s.keyAllowed then some (s.roll s.here.column none .blockMapping)
    else none
  return (s.advance 1).emit .value

/-- A token that may be a key by itself: it becomes a candidate. -/
def keyLike (s : Scan) (read : Cursor → Option (Token × Cursor)) : Option Scan := do
  let s ← s.saveCandidate
  let (t, c) ← read s.here
  return { s with here := c, keyAllowed := false }.emit t

def blockScalar (s : Scan) (folded : Bool) : Option Scan := do
  let s ← s.dropCandidate
  let (text, c) ← blockText folded s.indent (s.here.skip 1)
  return { s with here := c, keyAllowed := true }.emit (.scalar (String.ofList text) false)

def quotedScalar (s : Scan) (single : Bool) : Option Scan :=
  s.keyLike fun c => do
    let (text, c) ← quotedText single (c.rest.length + 2) [] (c.skip 1)
    return (.scalar (String.ofList text) false, c)

/-- A plain scalar. A line break after it may be followed by a key. -/
def plainScalar (s : Scan) : Option Scan := do
  let s ← s.saveCandidate
  let (text, broken, c) ← plainText s.inFlow (s.indent + 1) (s.here.rest.length + 1) {} [] s.here
  return { s with here := c, keyAllowed := broken }.emit (.scalar (String.ofList text) true)

/-- A plain scalar may start here: with a character that is no mark, or with a hyphen, or outside
of brackets a question mark or a colon, that a word goes on after. -/
def startsPlain (s : Scan) (ch : Char) : Bool :=
  let marks := "-?:,[]\x7b\x7d#&*!|>'\"%@\x60".toList
  let blankNext := (s.here.peek? 1).any isBlank
  (isSolid ch && !marks.contains ch) || (ch == '-' && !blankNext) ||
    (!s.inFlow && (ch == '?' || ch == ':') && !s.here.isGapAt 1)

/-- The token that starts with the given character. -/
def token (s : Scan) (ch : Char) : Option Scan :=
  let c := s.here
  if c.column == 0 && ch == '%' then do
    let s ← (s.closeBlocks (-1)).dropCandidate
    let (t, c) ← directiveAt (c.skip 1)
    return { s with here := c, keyAllowed := false }.emit t
  else if c.atMarker '-' then s.marker .documentStart
  else if c.atMarker '.' then s.marker .documentEnd
  else
    match ch with
    | '[' => s.openBracket .openSequence
    | '{' => s.openBracket .openMapping
    | ']' => s.closeBracket .closeSequence
    | '}' => s.closeBracket .closeMapping
    | ',' => do
        let s ← s.dropCandidate
        return ({ s with keyAllowed := true }.advance 1).emit .separator
    | '*' => s.keyLike fun c => (anchorAt (c.skip 1)).map fun (name, c) => (.reference name, c)
    | '&' => s.keyLike fun c => (anchorAt (c.skip 1)).map fun (name, c) => (.anchor name, c)
    | '!' => s.keyLike (tagAt s.inFlow)
    | '\'' => s.quotedScalar true
    | '"' => s.quotedScalar false
    | _ =>
        if ch == '-' && c.isGapAt 1 then s.blockEntry
        else if ch == '?' && (s.inFlow || c.isGapAt 1) then s.keyMark
        else if ch == ':' && (s.inFlow || c.isGapAt 1) then s.valueMark
        else if ch == '|' && !s.inFlow then s.blockScalar false
        else if ch == '>' && !s.inFlow then s.blockScalar true
        else if s.startsPlain ch then s.plainScalar
        else none

/-- All tokens up to the end of the document; each takes a character at least. -/
def run : Nat → Scan → Option (List Token)
  | 0, _ => none
  | steps + 1, s => do
      let s ← (skipGap (s.here.rest.length + 1) s).dropStale
      let s := s.closeBlocks s.here.column
      match s.here.peek? 0 with
      | none =>
          let s ← (s.closeBlocks (-1)).dropCandidate
          return s.tokens.toList
      | some ch => run steps (← s.token ch)

end Scan

/-- The tokens of a document, if it is divided into tokens at all. -/
def Token.ofText? (text : String) : Option (List Token) :=
  if text.toList.all isAllowed then Scan.run (text.length + 2) { here := Cursor.start text } else none

end FleetWatch.Yaml
