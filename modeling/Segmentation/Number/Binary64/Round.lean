import Segmentation.Number.Binary64

/-!
# Rounding to the nearest floating-point number

A quotient of natural numbers is placed on the grid of spacing `2 ^ e` on which its quotient takes 53
binary digits, or on the finest grid there is, and goes to the nearest grid point; a tie goes to the even
one. What rounds beyond the largest finite number is infinite.
-/

namespace Segmentation.Binary64

/-- `num / den` to the nearest natural number, a tie to the even one. -/
def roundDiv (num den : Nat) : Nat :=
  let quotient := num / den
  let rest := num % den
  if 2 * rest < den then quotient
  else if den < 2 * rest then quotient + 1
  else quotient + quotient % 2

/-- `num / den` counted in units of `2 ^ e`, as a quotient. -/
def scale (num den : Nat) (e : Int) : Nat × Nat :=
  if 0 ≤ e then (num, den * Nat.pow 2 e.toNat) else (num * Nat.pow 2 (-e).toNat, den)

/-- The exponent of the grid on which `num / den` takes 53 binary digits, but at least `-1074`. -/
def gridExponent (num den : Nat) : Int :=
  let e := (num.log2 : Int) - den.log2 - 53
  let (n, d) := scale num den e
  max (-1074) (if n / d < Nat.pow 2 53 then e else e + 1)

/-- The number nearest to `± num / den`, a tie going to the even mantissa. -/
def ofRatio (negative : Bool) (num den : Nat) : Binary64 :=
  let e := gridExponent num den
  let (n, d) := scale num den e
  let mant := roundDiv n d
  if mant = Nat.pow 2 53 then pack negative (Nat.pow 2 52) (e + 1) else pack negative mant e

/-- The number nearest to an integer; infinite if the integer is too large for a finite one. -/
def ofInt (n : Int) : Binary64 :=
  ofRatio (n < 0) n.natAbs 1

/-- How many decimal digits a natural number has. -/
def digitCount (n : Nat) : Nat :=
  (Nat.toDigits 10 n).length

/-- The number nearest to `± digits * 10 ^ exp`. Exponents far outside the range are settled without
computing the power. -/
def ofDecimal (negative : Bool) (digits : Nat) (exp : Int) : Binary64 :=
  if digits = 0 then zero negative
  else
    let size := digitCount digits + exp
    if 310 < size then .infinite negative
    else if size < -330 then zero negative
    else if 0 ≤ exp then ofRatio negative (digits * Nat.pow 10 exp.toNat) 1
    else ofRatio negative digits (Nat.pow 10 (-exp).toNat)

end Segmentation.Binary64
