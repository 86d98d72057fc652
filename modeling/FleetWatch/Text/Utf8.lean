/-! # UTF-8

Decoding bytes as UTF-8: strictly, or with every maximal part that is not the start of a character
replaced by `U+FFFD`.
-/

namespace FleetWatch.Text

/-- How many bytes follow a first byte, and the range of the second byte. None for a byte that
starts no character. -/
def utf8Shape? (b : UInt8) : Option (Nat × UInt8 × UInt8) :=
  if 0xC2 ≤ b && b ≤ 0xDF then some (1, 0x80, 0xBF)
  else if b == 0xE0 then some (2, 0xA0, 0xBF)
  else if b == 0xED then some (2, 0x80, 0x9F)
  else if 0xE1 ≤ b && b ≤ 0xEF then some (2, 0x80, 0xBF)
  else if b == 0xF0 then some (3, 0x90, 0xBF)
  else if 0xF1 ≤ b && b ≤ 0xF3 then some (3, 0x80, 0xBF)
  else if b == 0xF4 then some (3, 0x80, 0x8F)
  else none

/-- The payload of a first byte that is followed by `n` more. -/
def utf8Lead (n : Nat) (b : UInt8) : Nat :=
  match n with
  | 1 => b.toNat % 0x20
  | 2 => b.toNat % 0x10
  | _ => b.toNat % 0x08

/-- What stands at the front of bytes: a character or a part that is none. -/
inductive Utf8Unit where
  | char (c : Char)
  | junk

/-- The decoding as a list of characters and of parts that are none. A pending character has its
value so far, how many bytes it still needs, and the range of the next one. -/
def utf8Units : Option (Nat × Nat × UInt8 × UInt8) → List UInt8 → List Utf8Unit
  | none, [] => []
  | some _, [] => [.junk]
  | none, b :: rest =>
      if b < 0x80 then .char (Char.ofNat b.toNat) :: utf8Units none rest
      else
        match utf8Shape? b with
        | some (n, low, high) => utf8Units (some (utf8Lead n b, n, low, high)) rest
        | none => .junk :: utf8Units none rest
  | some (value, needed, low, high), b :: rest =>
      if low ≤ b && b ≤ high then
        let value := value * 0x40 + b.toNat % 0x40
        if needed ≤ 1 then .char (Char.ofNat value) :: utf8Units none rest
        else utf8Units (some (value, needed - 1, 0x80, 0xBF)) rest
      else if b < 0x80 then .junk :: .char (Char.ofNat b.toNat) :: utf8Units none rest
      else
        match utf8Shape? b with
        | some (n, low, high) =>
            .junk :: utf8Units (some (utf8Lead n b, n, low, high)) rest
        | none => .junk :: .junk :: utf8Units none rest

/-- The characters that the bytes write, if they are UTF-8. -/
def decodeUtf8? (bytes : List UInt8) : Option (List Char) :=
  (utf8Units none bytes).mapM fun
    | .char c => some c
    | .junk => none

/-- The characters that the bytes write, with `U+FFFD` for each part that is none. -/
def decodeUtf8Lossy (bytes : List UInt8) : List Char :=
  (utf8Units none bytes).map fun
    | .char c => c
    | .junk => Char.ofNat 0xFFFD

def utf8Bytes (s : String) : List UInt8 := s.toUTF8.toList

end FleetWatch.Text
