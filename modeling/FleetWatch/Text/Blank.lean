/-! # White space

The characters with the Unicode property `White_Space`, and trimming by them. Zero-width
characters (`U+200B`, `U+FEFF`), the separators `U+001C` to `U+001F` and `U+180E` are not among
them.
-/

namespace FleetWatch.Text

/-- The Unicode property `White_Space`. -/
def isBlank (c : Char) : Bool :=
  let n := c.toNat
  (0x09 ≤ n && n ≤ 0x0D) || n == 0x20 || n == 0x85 || n == 0xA0 || n == 0x1680 ||
    (0x2000 ≤ n && n ≤ 0x200A) || n == 0x2028 || n == 0x2029 || n == 0x202F || n == 0x205F ||
    n == 0x3000

/-- `s` without the leading characters that satisfy `p`. -/
def dropStart (p : Char → Bool) (s : List Char) : List Char := s.dropWhile p

/-- `s` without the trailing characters that satisfy `p`. -/
def dropEnd (p : Char → Bool) (s : List Char) : List Char := (s.reverse.dropWhile p).reverse

/-- `s` without white space at either end. -/
def trimChars (s : List Char) : List Char := dropEnd isBlank (dropStart isBlank s)

/-- `s` without white space at either end. -/
def trim (s : String) : String := String.ofList (trimChars s.toList)

/-- True of the empty string and of white space alone. -/
def isBlankText (s : String) : Bool := s.toList.all isBlank

end FleetWatch.Text
