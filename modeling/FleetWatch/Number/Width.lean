/-! # Widths of integers

The ranges of integers that a given number of bits can hold.
-/

namespace FleetWatch

/-- How many numbers have at most so many bits. -/
def twoTo (bits : Nat) : Nat := Nat.pow 2 bits

/-- The least integer of 64 bits with a sign. -/
def minInt64 : Int := -9223372036854775808

/-- The greatest integer of 64 bits with a sign. -/
def maxInt64 : Int := 9223372036854775807

/-- The integer fits into 64 bits with a sign. -/
def isInt64 (n : Int) : Bool := minInt64 ≤ n && n ≤ maxInt64

end FleetWatch
