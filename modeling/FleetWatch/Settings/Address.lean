import FleetWatch.Number.Digits
import FleetWatch.Number.Width

/-! # Socket addresses

Which texts are addresses with a port: four numbers with points between them, or up to eight groups
in brackets, of which two colons may stand for the zero ones. The last two groups may be written as
four numbers, and the closing bracket may follow a scope number.
-/

namespace FleetWatch.Address

/-- The character is a digit in the base. -/
def isDigitIn (base : Nat) (c : Char) : Bool :=
  match hexValue? c with
  | some d => d < base
  | none => false

/-- What follows a number below `limit` that has at most so many digits. `zeros` admits zeros in
front of it. -/
def number? (base : Nat) (digits : Option Nat) (zeros : Bool) (limit : Nat) (s : List Char) :
    Option (List Char) := do
  let text := s.takeWhile (isDigitIn base)
  let value ← natOfDigits? base text
  let tooLong := digits.any fun n => n < text.length
  let zeroFirst := !zeros && 1 < text.length && text.head? == some '0'
  if tooLong || zeroFirst || limit ≤ value then none else some (s.dropWhile (isDigitIn base))

def after? (c : Char) : List Char → Option (List Char)
  | [] => none
  | first :: rest => if first = c then some rest else none

/-- What follows four numbers with points between them. -/
def dotted? (s : List Char) : Option (List Char) := do
  let octet? := number? 10 (some 3) false 256
  let s ← octet? s
  let s ← (after? '.' s).bind octet?
  let s ← (after? '.' s).bind octet?
  (after? '.' s).bind octet?

/-- How many groups follow each other here, at most `room`, whether the last two are written as
four numbers, and what follows them. -/
def groups : Nat → Bool → List Char → Nat × Bool × List Char
  | 0, _, s => (0, false, s)
  | room + 1, first, s =>
      match if first then some s else after? ':' s with
      | none => (0, false, s)
      | some body =>
          match if 0 < room then dotted? body else none with
          | some rest => (2, true, rest)
          | none =>
              match number? 16 (some 4) true 0x10000 body with
              | none => (0, false, s)
              | some rest =>
                  let (count, dotted, rest) := groups room false rest
                  (count + 1, dotted, rest)

/-- What follows eight groups, or fewer with two colons among them. -/
def grouped? (s : List Char) : Option (List Char) :=
  match groups 8 true s with
  | (8, _, rest) => some rest
  | (_, true, _) => none
  | (count, false, ':' :: ':' :: rest) => some (groups (7 - count) true rest).2.2
  | _ => none

/-- What follows a scope number, which may be missing. -/
def afterScope (s : List Char) : List Char :=
  ((after? '%' s).bind (number? 10 none true (twoTo 32))).getD s

def host? (s : List Char) : Option (List Char) :=
  match after? '[' s with
  | some inner => do after? ']' (afterScope (← grouped? inner))
  | none => dotted? s

/-- The text is an address with a port. -/
def isSocketAddress (s : String) : Bool :=
  ((host? s.toList).bind fun rest =>
    (after? ':' rest).bind (number? 10 none true (twoTo 16))) == some []

end FleetWatch.Address
