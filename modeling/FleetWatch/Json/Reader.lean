import FleetWatch.Json
import FleetWatch.Number.Binary64
import FleetWatch.Number.Digits
import FleetWatch.Number.Width

/-! # Reading JSON into types

A reader takes a value of one type from the front of a JSON text. The first fault in the order of
the text decides, and a fault is one of three: the text ended too early, it is not JSON, or it is
JSON of the wrong shape.

* A value of a known type is decoded. A value that nobody asks for is skipped; skipping checks its
  form only, so that a lone surrogate or a number out of range does not matter there, and neither
  does the depth of nesting.
* A record is an object, in which unknown members are skipped and a known one may stand only once,
  or an array of its fields in their order. In an array the last fields may be missing if they may
  be absent, and surplus items are not JSON.
* A word of an enumeration is a string, or an object with the word as its one name and null as the
  value.
-/

namespace FleetWatch.Json

/-- Why a JSON text could not be read. -/
inductive Fault where
  /-- The text ended too early. -/
  | ended
  /-- The text is not JSON. -/
  | malformed
  /-- The text is JSON of the wrong shape up to this point. -/
  | mismatched
  deriving DecidableEq, Repr

/-- Takes a value from the front of a text. -/
abbrev Reader (α : Type) := List Char → Except Fault (α × List Char)

namespace Reader

@[inline] def done {α : Type} (a : α) : Reader α := fun s => .ok (a, s)

@[inline] def andThen {α β : Type} (r : Reader α) (next : α → Reader β) : Reader β := fun s =>
  match r s with
  | .ok (a, rest) => next a rest
  | .error fault => .error fault

instance : Monad Reader where
  pure := done
  bind := andThen

def isSpace (c : Char) : Bool := c == ' ' || c == '\n' || c == '\t' || c == '\r'

/-- The text without white space at its front. -/
def skipSpace (s : List Char) : List Char := s.dropWhile isSpace

/-- Takes the rest of a literal word, such as `null` after its first letter. -/
def restOfWord : List Char → Reader Unit
  | [], s => .ok ((), s)
  | _ :: _, [] => .error .ended
  | w :: word, c :: rest => if c = w then restOfWord word rest else .error .malformed

def fewerThanFourBytes (s : List Char) : Bool :=
  (s.take 4).foldl (fun n c => n + c.utf8Size) 0 < 4

def hexUnit : Reader Nat := fun s =>
  match s with
  | a :: b :: c :: d :: rest =>
      match natOfDigits? 16 [a, b, c, d] with
      | some n => .ok (n, rest)
      | none => if fewerThanFourBytes s then .error .ended else .error .malformed
  | _ => if fewerThanFourBytes s then .error .ended else .error .malformed

def shortEscape? : Char → Option Char
  | '"' => some '"'
  | '\\' => some '\\'
  | '/' => some '/'
  | 'b' => some (Char.ofNat 8)
  | 'f' => some (Char.ofNat 12)
  | 'n' => some '\n'
  | 'r' => some '\r'
  | 't' => some '\t'
  | _ => none

/-- The second half of a pair of surrogates, after the first one. -/
def lowSurrogate (high : Nat) : Reader Char := fun s =>
  match s with
  | [] => .error .ended
  | '\\' :: [] => .error .ended
  | '\\' :: 'u' :: rest =>
      match hexUnit rest with
      | .error fault => .error fault
      | .ok (low, rest) =>
          if 0xDC00 ≤ low && low ≤ 0xDFFF then
            .ok (Char.ofNat (0x10000 + (high - 0xD800) * 0x400 + (low - 0xDC00)), rest)
          else .error .malformed
  | _ => .error .malformed

/-- The character of an escape, after its backslash. A surrogate must stand in a pair. -/
def escape : Reader Char := fun s =>
  match s with
  | [] => .error .ended
  | 'u' :: rest =>
      match hexUnit rest with
      | .error fault => .error fault
      | .ok (n, rest) =>
          if 0xDC00 ≤ n && n ≤ 0xDFFF then .error .malformed
          else if 0xD800 ≤ n && n ≤ 0xDBFF then lowSurrogate n rest
          else .ok (Char.ofNat n, rest)
  | c :: rest =>
      match shortEscape? c with
      | some e => .ok (e, rest)
      | none => .error .malformed

/-- The characters of a string up to its closing quote. Each step takes a character at least, so
as many steps as there are characters are enough. -/
def stringChars : Nat → Reader (List Char)
  | 0, _ => .error .ended
  | steps + 1, s =>
      match s with
      | [] => .error .ended
      | '"' :: rest => .ok ([], rest)
      | '\\' :: rest =>
          match escape rest with
          | .error fault => .error fault
          | .ok (c, rest) =>
              match stringChars steps rest with
              | .error fault => .error fault
              | .ok (cs, rest) => .ok (c :: cs, rest)
      | c :: rest =>
          if c.toNat < 0x20 then .error .malformed
          else
            match stringChars steps rest with
            | .error fault => .error fault
            | .ok (cs, rest) => .ok (c :: cs, rest)

def restOfString : Reader String := fun s =>
  match stringChars (s.length + 1) s with
  | .ok (cs, rest) => .ok (String.ofList cs, rest)
  | .error fault => .error fault

/-- Passes over a string up to its closing quote without decoding it. -/
def skipString : List Char → Except Fault (List Char)
  | [] => .error .ended
  | '"' :: rest => .ok rest
  | '\\' :: [] => .error .ended
  | '\\' :: 'u' :: rest =>
      match rest with
      | a :: b :: c :: d :: after =>
          if (natOfDigits? 16 [a, b, c, d]).isSome then skipString after
          else if fewerThanFourBytes rest then .error .ended else .error .malformed
      | _ => if fewerThanFourBytes rest then .error .ended else .error .malformed
  | '\\' :: c :: rest => if (shortEscape? c).isSome then skipString rest else .error .malformed
  | c :: rest => if c.toNat < 0x20 then .error .malformed else skipString rest

/-- A numeral: its integer digits, its fraction digits and its exponent, where it has them. -/
structure Numeral where
  negative : Bool
  whole : List Char
  fraction : Option (List Char)
  exponent : Option Int

namespace Numeral

/-- The integer that the numeral writes; a fraction, an exponent and `-0` make a number that is
no integer. -/
def toInt? (n : Numeral) : Option Int :=
  match n.fraction, n.exponent with
  | none, none =>
      let value := decimalValue n.whole
      if n.negative then (if value = 0 then none else some (-(value : Int))) else some value
  | _, _ => none

def isFinite (n : Numeral) : Bool :=
  let fraction := n.fraction.getD []
  (Binary64.ofDecimal (decimalValue (n.whole ++ fraction))
    (n.exponent.getD 0 - (fraction.length : Int))).isSome

end Numeral

/-- Digits of the integer part: one zero, or digits that do not start with a zero. Where the text
ends instead, `atEnd` is the fault. -/
def wholeDigits (atEnd : Fault) : Reader (List Char) := fun s =>
  match s with
  | [] => .error atEnd
  | '0' :: rest =>
      match rest with
      | c :: _ => if c.isDigit then .error .malformed else .ok (['0'], rest)
      | [] => .ok (['0'], rest)
  | c :: _ =>
      if c.isDigit then .ok (s.takeWhile Char.isDigit, s.dropWhile Char.isDigit)
      else .error .malformed

/-- At least one digit. Where the text ends instead, `atEnd` is the fault. -/
def someDigits (atEnd : Fault) : Reader (List Char) := fun s =>
  match s with
  | [] => .error atEnd
  | c :: _ =>
      if c.isDigit then .ok (s.takeWhile Char.isDigit, s.dropWhile Char.isDigit)
      else .error .malformed

/-- The exponent, after the letter that starts it. -/
def exponentValue (atEnd : Fault) : Reader Int := fun s =>
  let (negative, s) :=
    match s with
    | '+' :: rest => (false, rest)
    | '-' :: rest => (true, rest)
    | _ => (false, s)
  match someDigits atEnd s with
  | .error fault => .error fault
  | .ok (digits, rest) =>
      let value : Int := decimalValue digits
      .ok (if negative then -value else value, rest)

/-- A numeral, at its first digit or sign. -/
def numeral (atEnd : Fault) : Reader Numeral := fun s =>
  let (negative, s) :=
    match s with
    | '-' :: rest => (true, rest)
    | _ => (false, s)
  match wholeDigits atEnd s with
  | .error fault => .error fault
  | .ok (whole, s) =>
      let fractioned : Except Fault (Option (List Char) × List Char) :=
        match s with
        | '.' :: rest => (someDigits atEnd rest).map fun (digits, rest) => (some digits, rest)
        | _ => .ok (none, s)
      match fractioned with
      | .error fault => .error fault
      | .ok (fraction, s) =>
          let raised : Except Fault (Option Int × List Char) :=
            match s with
            | 'e' :: rest => (exponentValue atEnd rest).map fun (e, rest) => (some e, rest)
            | 'E' :: rest => (exponentValue atEnd rest).map fun (e, rest) => (some e, rest)
            | _ => .ok (none, s)
          raised.map fun (exponent, s) => (⟨negative, whole, fraction, exponent⟩, s)

/-- A container that a skipped value is in. -/
inductive Frame where
  | array
  | object
  deriving DecidableEq

/-- What is expected next inside the containers of a skipped value. -/
inductive Expect where
  /-- A value. -/
  | value
  /-- The first item, or the end of the array. -/
  | firstItem
  /-- The first name, or the end of the object. -/
  | firstName
  /-- A name. -/
  | name
  /-- A comma, or the end of the container. -/
  | more

/-- Passes over a scalar value; gives nothing back where a container opens instead. -/
def skipScalar (s : List Char) : Except Fault (Option (List Char)) :=
  let word (w : String) (rest : List Char) : Except Fault (Option (List Char)) :=
    (restOfWord w.toList rest).map fun (_, rest) => some rest
  match s with
  | [] => .error .ended
  | 'n' :: rest => word "ull" rest
  | 't' :: rest => word "rue" rest
  | 'f' :: rest => word "alse" rest
  | '"' :: rest => (skipString rest).map some
  | '[' :: _ => .ok none
  | '{' :: _ => .ok none
  | c :: _ =>
      if c = '-' || c.isDigit then (numeral .malformed s).map fun (_, rest) => some rest
      else .error .malformed

/-- Passes over the name of a member and the colon after it. -/
def skipName (s : List Char) : Except Fault (List Char) :=
  match s with
  | [] => .error .ended
  | '"' :: rest =>
      match skipString rest with
      | .error fault => .error fault
      | .ok rest =>
          match skipSpace rest with
          | [] => .error .ended
          | ':' :: rest => .ok rest
          | _ => .error .malformed
  | _ => .error .malformed

/-- Passes over what is expected inside the given containers. Each step takes a character at
least, or is followed by one that does. -/
def skipIn : Nat → Expect → List Frame → List Char → Except Fault (List Char)
  | 0, _, _, _ => .error .ended
  | _ + 1, .more, [], s => .ok s
  | steps + 1, .more, frame :: frames, s =>
      match skipSpace s, frame with
      | [], _ => .error .ended
      | ',' :: rest, .array => skipIn steps .value (frame :: frames) rest
      | ',' :: rest, .object => skipIn steps .name (frame :: frames) rest
      | ']' :: rest, .array => skipIn steps .more frames rest
      | '}' :: rest, .object => skipIn steps .more frames rest
      | _, _ => .error .malformed
  | steps + 1, .value, frames, s =>
      let s := skipSpace s
      match skipScalar s with
      | .error fault => .error fault
      | .ok (some rest) => skipIn steps .more frames rest
      | .ok none =>
          match s with
          | '[' :: rest => skipIn steps .firstItem (.array :: frames) rest
          | _ :: rest => skipIn steps .firstName (.object :: frames) rest
          | [] => .error .ended
  | steps + 1, .firstItem, frames, s =>
      match skipSpace s with
      | ']' :: rest => skipIn steps .more frames.tail rest
      | rest => skipIn steps .value frames rest
  | steps + 1, .firstName, frames, s =>
      match skipSpace s with
      | '}' :: rest => skipIn steps .more frames.tail rest
      | rest => skipIn steps .name frames rest
  | steps + 1, .name, frames, s =>
      match skipName (skipSpace s) with
      | .error fault => .error fault
      | .ok rest => skipIn steps .value frames rest

def skipValue : Reader Unit := fun s =>
  (skipIn (2 * s.length + 2) .value [] s).map fun rest => ((), rest)

/-- The fault of a value that has another type than the one asked for: it is of the wrong shape if
it starts as a value does, and a scalar must be sound besides. -/
def wrongType (s : List Char) : Fault :=
  let after {α : Type} (r : Except Fault (α × List Char)) : Fault :=
    match r with
    | .error fault => fault
    | .ok _ => .mismatched
  match s with
  | [] => .malformed
  | 'n' :: rest => after (restOfWord "ull".toList rest)
  | 't' :: rest => after (restOfWord "rue".toList rest)
  | 'f' :: rest => after (restOfWord "alse".toList rest)
  | '"' :: rest => after (restOfString rest)
  | '[' :: _ => .mismatched
  | '{' :: _ => .mismatched
  | c :: _ =>
      if c = '-' || c.isDigit then
        match numeral .ended s with
        | .error fault => fault
        | .ok (n, _) => if n.isFinite then .mismatched else .malformed
      else .malformed

/-- A value that is expected, after white space. -/
def expecting {α : Type} (read : List Char → Except Fault (α × List Char)) : Reader α := fun s =>
  match skipSpace s with
  | [] => .error .ended
  | s => read s

def string : Reader String := expecting fun s =>
  match s with
  | '"' :: rest => restOfString rest
  | s => .error (wrongType s)

def bool : Reader Bool := expecting fun s =>
  match s with
  | 't' :: rest => (restOfWord "rue".toList rest).map fun (_, rest) => (true, rest)
  | 'f' :: rest => (restOfWord "alse".toList rest).map fun (_, rest) => (false, rest)
  | s => .error (wrongType s)

/-- An integer from `low` to `high`. -/
def integer (low high : Int) : Reader Int := expecting fun s =>
  match s with
  | c :: _ =>
      if c = '-' || c.isDigit then
        match numeral .ended s with
        | .error fault => .error fault
        | .ok (n, rest) =>
            match n.toInt? with
            | some value =>
                if low ≤ value && value ≤ high then .ok (value, rest)
                else .error (wrongType s)
            | none => .error (wrongType s)
      else .error (wrongType s)
  | s => .error (wrongType s)

/-- A natural number below `2 ^ bits`. -/
def natural (bits : Nat) : Reader Nat := fun s =>
  (integer 0 (twoTo bits - 1) s).map fun (n, rest) => (n.toNat, rest)

def optional {α : Type} (read : Reader α) : Reader (Option α) := fun s =>
  match skipSpace s with
  | 'n' :: rest => (restOfWord "ull".toList rest).map fun (_, rest) => (none, rest)
  | s => (read s).map fun (a, rest) => (some a, rest)

/-- One more item is there, and where it starts; `first` says that none has been read yet. -/
def nextItem (first : Bool) : Reader Bool := fun s =>
  match skipSpace s with
  | [] => .error .ended
  | ']' :: rest => .ok (false, ']' :: rest)
  | c :: rest =>
      if first then .ok (true, c :: rest)
      else if c = ',' then
        match skipSpace rest with
        | [] => .error .ended
        | ']' :: _ => .error .malformed
        | rest => .ok (true, rest)
      else .error .malformed

/-- The end of an array all of whose items have been read. -/
def endArray : Reader Unit := fun s =>
  match skipSpace s with
  | [] => .error .ended
  | ']' :: rest => .ok ((), rest)
  | _ => .error .malformed

/-- The items of an array up to its end; each takes a character at least. -/
def items {α : Type} (read : Reader α) : Nat → Bool → Reader (List α)
  | 0, _, _ => .error .ended
  | steps + 1, first, s =>
      match nextItem first s with
      | .error fault => .error fault
      | .ok (false, s) => .ok ([], s)
      | .ok (true, s) =>
          match read s with
          | .error fault => .error fault
          | .ok (a, s) =>
              match items read steps false s with
              | .error fault => .error fault
              | .ok (more, s) => .ok (a :: more, s)

def array {α : Type} (read : Reader α) : Reader (List α) := expecting fun s =>
  match s with
  | '[' :: rest => (items read (rest.length + 1) true).andThen
      (fun all => Reader.andThen endArray fun _ => .done all) rest
  | s => .error (wrongType s)

/-- One more member is there, and where its name starts, after the quote. -/
def nextName (first : Bool) : Reader Bool := fun s =>
  match skipSpace s with
  | [] => .error .ended
  | '}' :: rest => .ok (false, '}' :: rest)
  | c :: rest =>
      if first then (if c = '"' then .ok (true, rest) else .error .malformed)
      else if c = ',' then
        match skipSpace rest with
        | [] => .error .ended
        | '"' :: rest => .ok (true, rest)
        | _ => .error .malformed
      else .error .malformed

/-- The colon between a name and its value. -/
def colon : Reader Unit := fun s =>
  match skipSpace s with
  | [] => .error .ended
  | ':' :: rest => .ok ((), rest)
  | _ => .error .malformed

/-- The end of an object all of whose members have been read. -/
def endObject : Reader Unit := fun s =>
  match skipSpace s with
  | [] => .error .ended
  | '}' :: rest => .ok ((), rest)
  | _ => .error .malformed

/-- The members of an object up to its end. What is read so far is a state, and `member` says for
a name how the value of the member changes it, or that the object is at fault with this name. -/
def members {σ : Type} (member : σ → String → Except Fault (Reader σ)) :
    Nat → Bool → σ → Reader σ
  | 0, _, _, _ => .error .ended
  | steps + 1, first, state, s =>
      match nextName first s with
      | .error fault => .error fault
      | .ok (false, s) => .ok (state, s)
      | .ok (true, s) =>
          match restOfString s with
          | .error fault => .error fault
          | .ok (name, s) =>
              match member state name with
              | .error fault => .error fault
              | .ok value =>
                  match Reader.andThen colon (fun _ => value) s with
                  | .error fault => .error fault
                  | .ok (state, s) => members member steps false state s

/-- An object as a list in which a later value of a name takes the place of an earlier one. -/
def dictionary {α : Type} (read : Reader α) : Reader (List (String × α)) := expecting fun s =>
  match s with
  | '{' :: rest =>
      (members (fun pairs name => .ok (read.andThen fun a =>
          .done (pairs.filter (·.1 ≠ name) ++ [(name, a)])))
        (rest.length + 1) true []).andThen
        (fun pairs => Reader.andThen endObject fun _ => .done pairs) rest
  | s => .error (wrongType s)

/-- A field of a record that is read into `σ`. -/
structure Field (σ : Type) where
  name : String
  /-- The field has been read. -/
  isRead : σ → Bool
  /-- Reads the value of the field and stores it. -/
  read : σ → Reader σ

/-- How a member of a record is read: into its field, once, or not at all. -/
def fieldMember {σ : Type} (fields : List (Field σ)) (state : σ) (name : String) :
    Except Fault (Reader σ) :=
  match fields.find? (·.name == name) with
  | some field => if field.isRead state then .error .mismatched else .ok (field.read state)
  | none => .ok (skipValue.andThen fun _ => .done state)

/-- The leading fields of a record that is written as an array. -/
def positional {σ : Type} : List (Field σ) → Bool → σ → Reader σ
  | [], _, state, s => .ok (state, s)
  | field :: fields, first, state, s =>
      match nextItem first s with
      | .error fault => .error fault
      | .ok (false, s) => .ok (state, s)
      | .ok (true, s) =>
          match field.read state s with
          | .error fault => .error fault
          | .ok (state, s) => positional fields false state s

/-- A record. `build` makes it of what was read, unless a field that must be there is missing. -/
def record {σ α : Type} (fields : List (Field σ)) (blank : σ) (build : σ → Option α) :
    Reader α := expecting fun s =>
  let finish (close : Reader Unit) (state : σ) : Reader α := fun s =>
    match build state with
    | none => .error .mismatched
    | some a => (close s).map fun (_, s) => (a, s)
  match s with
  | '{' :: rest =>
      (members (fieldMember fields) (rest.length + 1) true blank).andThen (finish endObject) rest
  | '[' :: rest => (positional fields true blank).andThen (finish endArray) rest
  | s => .error (wrongType s)

/-- A word of an enumeration, decoded by `ofText?`. -/
def word {α : Type} (ofText? : String → Option α) : Reader α := expecting fun s =>
  let known (text : String) (rest : List Char) : Except Fault (α × List Char) :=
    match ofText? text with
    | some a => .ok (a, rest)
    | none => .error .mismatched
  match s with
  | '"' :: rest =>
      match restOfString rest with
      | .error fault => .error fault
      | .ok (text, rest) => known text rest
  | '{' :: rest =>
      match string rest with
      | .error fault => .error fault
      | .ok (text, rest) =>
          match known text rest with
          | .error fault => .error fault
          | .ok (a, rest) =>
              let null : Reader Unit := expecting fun s =>
                match s with
                | 'n' :: rest => restOfWord "ull".toList rest
                | s => .error (wrongType s)
              match (Reader.andThen colon fun _ => null) rest with
              | .error fault => .error fault
              | .ok (_, rest) => (endObject rest).map fun (_, rest) => (a, rest)
  | _ => .error .malformed

/-- Reads a whole text: one value, with nothing but white space after it. -/
def run {α : Type} (reader : Reader α) (text : String) : Except Fault α :=
  match reader text.toList with
  | .error fault => .error fault
  | .ok (a, rest) => if (skipSpace rest).isEmpty then .ok a else .error .malformed

end Reader

end FleetWatch.Json
