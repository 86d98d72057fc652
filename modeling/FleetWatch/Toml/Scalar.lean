import FleetWatch.Number.Binary64
import FleetWatch.Number.Width
import FleetWatch.Toml.Text
import FleetWatch.Toml.Value

/-! # Numbers and dates of a TOML document

Integers of 64 bits in four bases, floats, and dates and times. Underscores may stand between
digits. A decimal above all doubles is no float; one below them is.
-/

namespace FleetWatch.Toml

/-- Digits that satisfy a predicate, with single underscores between them. -/
def digitRun (isDigit : Char → Bool) : List Char → List Char × List Char
  | '_' :: c :: rest =>
      if isDigit c then
        let (more, rest) := digitRun isDigit rest
        (c :: more, rest)
      else ([], '_' :: c :: rest)
  | c :: rest =>
      if isDigit c then
        let (more, rest) := digitRun isDigit rest
        (c :: more, rest)
      else ([], c :: rest)
  | [] => ([], [])

/-- At least one digit, with single underscores between digits. -/
def someDigits (isDigit : Char → Bool) : Read (List Char)
  | c :: rest => if isDigit c then some (digitRun isDigit (c :: rest)) else none
  | [] => none

/-- Whether a minus sign stands here, and what follows a sign. -/
def sign : List Char → Bool × List Char
  | '-' :: rest => (true, rest)
  | '+' :: rest => (false, rest)
  | s => (false, s)

/-- The digits of a decimal integer: a zero alone, or digits that do not start with one. -/
def wholeDigits : Read (List Char)
  | '0' :: rest => some (['0'], rest)
  | s => someDigits Char.isDigit s

def boundedInteger? (n : Int) : Option Value :=
  if isInt64 n then some (.integer n) else none

/-- A natural number in a base other than ten, after the letter of the base. -/
def basedInteger (base : Nat) : Read Value := fun s =>
  let isDigit (c : Char) : Bool := (hexValue? c).any (· < base)
  (someDigits isDigit s).bind fun (digits, rest) =>
    (natOfDigits? base digits).bind fun n =>
      (boundedInteger? n).map fun v => (v, rest)

def integer : Read Value
  | '0' :: 'x' :: rest => basedInteger 16 rest
  | '0' :: 'o' :: rest => basedInteger 8 rest
  | '0' :: 'b' :: rest => basedInteger 2 rest
  | s =>
      let (negative, s) := sign s
      (wholeDigits s).bind fun (digits, rest) =>
        let n : Int := decimalValue digits
        (boundedInteger? (if negative then -n else n)).map fun v => (v, rest)

/-- The fraction of a float with its point, if there is one. -/
def fraction? : Read (List Char)
  | '.' :: rest => someDigits Char.isDigit rest
  | _ => none

/-- The exponent of a float with its letter, if there is one. -/
def exponent? (s : List Char) : Option (Int × List Char) :=
  let value (rest : List Char) : Option (Int × List Char) :=
    let (negative, rest) := sign rest
    (someDigits Char.isDigit rest).map fun (digits, rest) =>
      let n : Int := decimalValue digits
      (if negative then -n else n, rest)
  match s with
  | 'e' :: rest => value rest
  | 'E' :: rest => value rest
  | _ => none

/-- A float in decimal digits: with a fraction, an exponent, or both. -/
def decimalFloat : Read Value := fun s => do
  let (negative, s) := sign s
  let (whole, s) ← wholeDigits s
  let (fraction, exponent, rest) ←
    match fraction? s with
    | some (fraction, rest) =>
        match exponent? rest with
        | some (e, rest) => some (fraction, e, rest)
        | none => some (fraction, 0, rest)
    | none => (exponent? s).map fun (e, rest) => ([], e, rest)
  let finite :=
    Binary64.ofDecimal (decimalValue (whole ++ fraction)) (exponent - (fraction.length : Int))
  if negative || finite.isSome then some (.float, rest) else none

def float : Read Value := fun s =>
  match decimalFloat s with
  | some r => some r
  | none =>
      match (sign s).2 with
      | 'i' :: 'n' :: 'f' :: rest => some (.float, rest)
      | 'n' :: 'a' :: 'n' :: rest => some (.float, rest)
      | _ => none

/-! ## Dates and times -/

/-- A number of exactly so many digits, from `low` to `high`. -/
def digits (count low high : Nat) : Read Nat := fun s =>
  let text := s.take count
  let n := decimalValue text
  if text.length = count && text.all Char.isDigit && low ≤ n && n ≤ high then
    some (n, s.drop count)
  else none

def after? (c : Char) : List Char → Option (List Char)
  | [] => none
  | first :: rest => if first = c then some rest else none

def daysIn (year month : Nat) : Nat :=
  if month = 2 then
    if year % 4 == 0 && (year % 100 != 0 || year % 400 == 0) then 29 else 28
  else if [4, 6, 9, 11].contains month then 30
  else 31

def date? (s : List Char) : Option (List Char) := do
  let (year, s) ← digits 4 0 9999 s
  let (month, s) ← digits 2 1 12 (← after? '-' s)
  let (_, s) ← digits 2 1 (daysIn year month) (← after? '-' s)
  return s

/-- What follows a time of day, whose seconds may have a fraction. -/
def time? (s : List Char) : Option (List Char) := do
  let (_, s) ← digits 2 0 23 s
  let (_, s) ← digits 2 0 59 (← after? ':' s)
  let (_, s) ← digits 2 0 60 (← after? ':' s)
  match s with
  | '.' :: c :: rest =>
      if c.isDigit then return (c :: rest).dropWhile Char.isDigit else return s
  | _ => return s

/-- What follows an offset from universal time, which may be missing. -/
def skipOffset (s : List Char) : List Char :=
  let hours? (rest : List Char) : Option (List Char) := do
    let (_, s) ← digits 2 0 23 rest
    let (_, s) ← digits 2 0 59 (← after? ':' s)
    return s
  match s with
  | 'Z' :: rest => rest
  | 'z' :: rest => rest
  | '+' :: rest => (hours? rest).getD s
  | '-' :: rest => (hours? rest).getD s
  | _ => s

/-- What follows a time after a date, which may be missing. -/
def skipTime (s : List Char) : List Char :=
  match s with
  | c :: rest =>
      if c == 'T' || c == 't' || c == ' ' then
        match time? rest with
        | some rest => skipOffset rest
        | none => s
      else s
  | [] => s

/-- A date, a time of day, or both. -/
def datetime : Read Value := fun s =>
  match date? s with
  | some rest => some (.datetime, skipTime rest)
  | none => (time? s).map fun rest => (.datetime, rest)

/-- A value that is no string and no collection. -/
def scalar : Read Value := fun s =>
  match s with
  | 't' :: 'r' :: 'u' :: 'e' :: rest => some (.boolean true, rest)
  | 'f' :: 'a' :: 'l' :: 's' :: 'e' :: rest => some (.boolean false, rest)
  | _ =>
      match datetime s with
      | some r => some r
      | none =>
          match float s with
          | some r => some r
          | none => integer s

end FleetWatch.Toml
