import FleetWatch.Number.Width

/-! # Rounding to double precision

The double nearest to a decimal, ties to the even significand, in exact arithmetic. A decimal whose
nearest double would be infinite has none.
-/

namespace FleetWatch

/-- A finite double that is not negative: `significand * 2 ^ exponent`, with fewer than 54 bits in
the significand and the least exponent that such a significand allows. -/
structure Binary64 where
  significand : Nat
  exponent : Int
  deriving DecidableEq, Repr

namespace Binary64

/-- The quotient, rounded to the nearest integer, ties to even. -/
def roundDiv (num den : Nat) : Nat :=
  let q := num / den
  let r := num % den
  if den < 2 * r || (2 * r == den && q % 2 == 1) then q + 1 else q

/-- `num / den * 2 ^ (-e)`, rounded. -/
def scaled (num den : Nat) (e : Int) : Nat :=
  if 0 ≤ e then roundDiv num (den * twoTo e.toNat) else roundDiv (num * twoTo (-e).toNat) den

/-- `num / den * 2 ^ (-e)`, rounded down. -/
def scaledDown (num den : Nat) (e : Int) : Nat :=
  if 0 ≤ e then num / (den * twoTo e.toNat) else num * twoTo (-e).toNat / den

/-- The exponent at which the quotient has 53 significant bits, or the least one there is. -/
def exponentOf (num den : Nat) : Int :=
  let guess : Int := (Nat.log2 num : Int) - (Nat.log2 den : Int) - 52
  max (if twoTo 52 ≤ scaledDown num den guess then guess else guess - 1) (-1074)

/-- The double nearest to `num / den`. -/
def ofQuotient (num den : Nat) : Option Binary64 :=
  if num = 0 then some ⟨0, 0⟩
  else
    let e := exponentOf num den
    let m := scaled num den e
    let (m, e) := if m = twoTo 53 then (twoTo 52, e + 1) else (m, e)
    if m = 0 then some ⟨0, 0⟩
    else if 971 < e then none
    else some ⟨m, e⟩

/-- The double nearest to `digits * 10 ^ e`. Beyond 10 to the 400 there is none, and below 10 to
the -400 it is zero, whatever the digits. -/
def ofDecimal (digits : Nat) (e : Int) : Option Binary64 :=
  if digits = 0 then some ⟨0, 0⟩
  else
    let size : Int := ((Nat.toDigits 10 digits).length : Int) + e
    if 400 < size then none
    else if size < -400 then some ⟨0, 0⟩
    else if 0 ≤ e then ofQuotient (digits * Nat.pow 10 e.toNat) 1
    else ofQuotient digits (Nat.pow 10 (-e).toNat)

end Binary64

end FleetWatch
