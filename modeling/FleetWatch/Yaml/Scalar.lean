import FleetWatch.Number.Digits
import FleetWatch.Yaml.Cursor

/-! # Texts of scalars

Reading the text of a scalar in each of its styles: plain, in single or double quotes, and as a
block. Line breaks inside a plain or quoted scalar fold: one break reads as a space, and of several
the first is dropped. Each reader gives the text and the cursor after it, or nothing where the
scalar is not well formed.
-/

namespace FleetWatch.Yaml

/-- The white space between two words of a scalar. -/
structure Gap where
  /-- Blanks before any line break. -/
  blanks : List Char := []
  /-- A line break has been passed. -/
  broken : Bool := false
  /-- The first line break. -/
  lead : List Char := []
  /-- The line breaks after the first. -/
  more : List Char := []

namespace Gap

def text (g : Gap) : List Char :=
  if g.broken then
    match g.lead with
    | '\n' :: _ => if g.more.isEmpty then [' '] else g.more
    | lead => lead ++ g.more
  else g.blanks

/-- Passes over white space. `forbidTab` refuses a tab that stands at a given column of a line
after the first. -/
def read (forbidTab : Nat → Bool) : Nat → Gap → Cursor → Option (Gap × Cursor)
  | 0, g, c => some (g, c)
  | steps + 1, g, c =>
      match c.peek? 0 with
      | none => some (g, c)
      | some ch =>
          if isBlank ch then
            if g.broken then
              if ch == '\t' && forbidTab c.column then none
              else read forbidTab steps g (c.skip 1)
            else read forbidTab steps { g with blanks := g.blanks ++ [ch] } (c.skip 1)
          else if isBreak ch then
            let (br, c) := c.takeBreak
            if g.broken then read forbidTab steps { g with more := g.more ++ br } c
            else read forbidTab steps { g with blanks := [], broken := true, lead := br } c
          else some (g, c)

end Gap

def isFlowMark (c : Char) : Bool :=
  c == ',' || c == '[' || c == ']' || c == '{' || c == '}'

/-- A word of a plain scalar. Inside brackets a colon right before a separator is an error. -/
def plainWord (flow : Bool) : List Char → Option (List Char)
  | [] => some []
  | ch :: rest =>
      let nextIs (p : Char → Bool) : Bool := rest.head?.any p
      if !isSolid ch then some []
      else if flow && ch == ':' && nextIs (fun x => isFlowMark x || x == '?') then none
      else if ch == ':' && !nextIs isSolid then some []
      else if flow && isFlowMark ch then some []
      else (plainWord flow rest).map (ch :: ·)

/-- A scalar's text, whether the white space after it has a line break, and the cursor after
both. -/
abbrev PlainText := List Char × Bool × Cursor

/-- A plain scalar, which goes on over lines indented by at least `indent`. -/
def plainText (flow : Bool) (indent : Int) :
    Nat → Gap → List Char → Cursor → Option PlainText
  | 0, gap, text, c => some (text, gap.broken, c)
  | steps + 1, gap, text, c =>
      if c.atDocumentMarker || c.has 0 '#' then some (text, gap.broken, c)
      else
        match plainWord flow c.rest with
        | none => none
        | some word =>
            let (gap, text) :=
              if word.isEmpty then (gap, text) else ({}, text ++ gap.text ++ word)
            let c := c.skip word.length
            if !c.next (fun ch => !isSolid ch) then some (text, gap.broken, c)
            else
              match Gap.read (fun column => (column : Int) < indent) (c.rest.length + 1) gap c with
              | none => none
              | some (gap, c) =>
                  if !flow && (c.column : Int) < indent then some (text, gap.broken, c)
                  else plainText flow indent steps gap text c

/-- The character of a one-letter escape in double quotes. -/
def letterEscape? : Char → Option Char
  | '0' => some (Char.ofNat 0)
  | 'a' => some (Char.ofNat 0x07)
  | 'b' => some (Char.ofNat 0x08)
  | 't' => some '\t'
  | '\t' => some '\t'
  | 'n' => some '\n'
  | 'v' => some (Char.ofNat 0x0B)
  | 'f' => some (Char.ofNat 0x0C)
  | 'r' => some '\r'
  | 'e' => some (Char.ofNat 0x1B)
  | ' ' => some ' '
  | '"' => some '"'
  | '/' => some '/'
  | '\\' => some '\\'
  | 'N' => some (Char.ofNat 0x85)
  | '_' => some (Char.ofNat 0xA0)
  | 'L' => some (Char.ofNat 0x2028)
  | 'P' => some (Char.ofNat 0x2029)
  | _ => none

/-- How many hexadecimal digits follow the letter of an escape. -/
def hexEscape? : Char → Option Nat
  | 'x' => some 2
  | 'u' => some 4
  | 'U' => some 8
  | _ => none

/-- The character of an escape, at its backslash, and how long the escape is. -/
def quotedEscape (s : List Char) : Option (Char × Nat) := do
  let letter ← s[1]?
  match letterEscape? letter with
  | some ch => return (ch, 2)
  | none =>
      let size ← hexEscape? letter
      let digits := (s.drop 2).take size
      if digits.length < size then none
      let n ← natOfDigits? 16 digits
      if (0xD800 ≤ n && n ≤ 0xDFFF) || 0x10FFFF < n then none
      return (Char.ofNat n, 2 + size)

/-- A word of a quoted scalar: its text, the cursor after it, and whether an escaped line break
ended it. -/
def quotedWord (single : Bool) : Nat → Cursor → Option (List Char × Bool × Cursor)
  | 0, _ => none
  | steps + 1, c =>
      match c.peek? 0 with
      | none => some ([], false, c)
      | some ch =>
          if !isSolid ch then some ([], false, c)
          else if single && ch == '\'' && c.has 1 '\'' then
            (quotedWord single steps (c.skip 2)).map fun (text, r) => ('\'' :: text, r)
          else if ch == (if single then '\'' else '"') then some ([], false, c)
          else if !single && ch == '\\' then
            if (c.peek? 1).any isBreak then some ([], true, (c.skip 1).skipBreak)
            else
              match quotedEscape c.rest with
              | none => none
              | some (e, size) =>
                  (quotedWord single steps (c.skip size)).map fun (text, r) => (e :: text, r)
          else (quotedWord single steps (c.skip 1)).map fun (text, r) => (ch :: text, r)

def quotedText (single : Bool) : Nat → List Char → Cursor → Option (List Char × Cursor)
  | 0, _, _ => none
  | steps + 1, text, c =>
      if c.atDocumentMarker || c.atEnd then none
      else
        match quotedWord single (c.rest.length + 1) c with
        | none => none
        | some (word, escaped, c) =>
            let text := text ++ word
            if c.has 0 (if single then '\'' else '"') then some (text, c.skip 1)
            else
              match Gap.read (fun _ => false) (c.rest.length + 1) { broken := escaped } c with
              | none => none
              | some (gap, c) => quotedText single steps (text ++ gap.text) c

/-- What becomes of the line breaks at the end of a block scalar. -/
inductive Chomp where
  | strip
  | clip
  | keep
  deriving DecidableEq

/-- The chomping and the indentation that the head of a block scalar gives, in either order. -/
def blockHead (c : Cursor) : Option (Chomp × Option Nat × Cursor) :=
  let chomp? (c : Cursor) : Option Chomp :=
    if c.has 0 '+' then some .keep else if c.has 0 '-' then some .strip else none
  let digit? (c : Cursor) : Option Nat :=
    (c.peek? 0).bind fun ch => if ch.isDigit then some (ch.toNat - 48) else none
  match chomp? c, digit? c with
  | some chomp, _ =>
      let c := c.skip 1
      match digit? c with
      | some 0 => none
      | some n => some (chomp, some n, c.skip 1)
      | none => some (chomp, none, c)
  | none, some 0 => none
  | none, some n =>
      let c := c.skip 1
      match chomp? c with
      | some chomp => some (chomp, some n, c.skip 1)
      | none => some (.clip, some n, c)
  | none, none => some (.clip, none, c)

/-- The indentation and empty lines before a line of a block scalar: the line breaks, the largest
column reached, and the cursor. `indent` is zero as long as the indentation is not known. A tab in
the indentation is an error. -/
def blockBreaks (indent : Nat) : Nat → List Char → Nat → Cursor → Option (List Char × Nat × Cursor)
  | 0, breaks, widest, c => some (breaks, widest, c)
  | steps + 1, breaks, widest, c =>
      let spaces := (c.rest.takeWhile (· == ' ')).length
      let c := c.skip (if indent == 0 then spaces else min spaces (indent - c.column))
      let widest := max widest c.column
      if (indent == 0 || c.column < indent) && c.has 0 '\t' then none
      else if c.next isBreak then
        let (br, c) := c.takeBreak
        blockBreaks indent steps (breaks ++ br) widest c
      else some (breaks, widest, c)

/-- The lines of a block scalar. `lead` is the break after the last line, `breaks` are those of the
empty lines after it, and `spaced` says that the last line starts with a blank. -/
def blockLines (folded : Bool) (indent : Nat) :
    Nat → List Char → List Char → List Char → Bool → Cursor →
      Option (List Char × List Char × List Char × Cursor)
  | 0, _, _, _, _, _ => none
  | steps + 1, text, lead, breaks, spaced, c =>
      if c.column == indent && !c.atEnd then
        let blank := c.next isBlank
        let text :=
          if folded && lead.head? == some '\n' && !spaced && !blank then
            if breaks.isEmpty then text ++ [' '] else text ++ breaks
          else text ++ lead ++ breaks
        let (line, c) := c.span fun ch => !isBreak ch
        let (lead, c) := c.takeBreak
        match blockBreaks indent (c.rest.length + 1) [] 0 c with
        | none => none
        | some (breaks, _, c) =>
            blockLines folded indent steps (text ++ line) lead breaks blank c
      else some (text, lead, breaks, c)

/-- A block scalar, after its indicator. `parent` is the indentation of the block it is in. -/
def blockText (folded : Bool) (parent : Int) (c : Cursor) : Option (List Char × Cursor) := do
  let (chomp, given, c) ← blockHead c
  let c := c.skipLineTail
  if !c.atLineEnd then none
  let c := c.skipBreak
  let known : Nat :=
    match given with
    | some n => (max parent 0).toNat + n
    | none => 0
  let (breaks, widest, c) ← blockBreaks known (c.rest.length + 1) [] 0 c
  let indent := if known == 0 then max (max widest (parent + 1).toNat) 1 else known
  let (text, lead, breaks, c) ← blockLines folded indent (c.rest.length + 2) [] [] breaks false c
  let text := if chomp == .strip then text else text ++ lead
  let text := if chomp == .keep then text ++ breaks else text
  return (text, c)

end FleetWatch.Yaml
