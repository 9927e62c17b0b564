import Segmentation.Number.Binary64.Round

/-!
# Sums and products of floating-point numbers

Every finite number is a multiple of `2 ^ -1074`, so sums and products are computed exactly on these
multiples and rounded once.
-/

namespace Segmentation.Binary64

/-- The number with the other sign. -/
def negate : Binary64 → Binary64
  | nan => nan
  | infinite negative => infinite (!negative)
  | finite negative mant exp h => finite (!negative) mant exp h

/-- The sign bit. -/
def isNegative : Binary64 → Bool
  | nan => false
  | infinite negative => negative
  | finite negative .. => negative

/-- The sum, rounded. A sum of zero is positive unless both numbers are negative. -/
def add (x y : Binary64) : Binary64 :=
  match x, y with
  | nan, _ | _, nan => nan
  | infinite a, infinite b => if a = b then infinite a else nan
  | infinite a, _ => infinite a
  | _, infinite b => infinite b
  | x, y =>
    let units := x.position + y.position
    if units = 0 then zero (x.isNegative && y.isNegative)
    else ofRatio (units < 0) units.natAbs (Nat.pow 2 1074)

/-- The product, rounded. -/
def mul (x y : Binary64) : Binary64 :=
  let negative := x.isNegative != y.isNegative
  match x, y with
  | nan, _ | _, nan => nan
  | infinite _, y => if y.position = 0 then nan else infinite negative
  | x, infinite _ => if x.position = 0 then nan else infinite negative
  | x, y => ofRatio negative (x.position * y.position).natAbs (Nat.pow 2 2148)

end Segmentation.Binary64
