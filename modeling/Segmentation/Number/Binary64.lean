/-!
# Binary floating-point numbers of 64 bits

A finite number is a sign, a mantissa below `2 ^ 53` and a power of two, kept in the one form in which
either the mantissa is full or the exponent is the least one. So two numbers are equal as data exactly
if they agree bit for bit; the two zeros differ. The order of values is that of `position`, which counts
in units of `2 ^ -1074`, of which every finite number is a multiple.
-/

namespace Segmentation

/-- The unique pair of mantissa and exponent that stands for a finite magnitude. -/
def Binary64.Canonical (mant : Nat) (exp : Int) : Prop :=
  mant < Nat.pow 2 53 ∧ -1074 ≤ exp ∧ exp ≤ 971 ∧ (Nat.pow 2 52 ≤ mant ∨ exp = -1074)

instance (mant : Nat) (exp : Int) : Decidable (Binary64.Canonical mant exp) :=
  inferInstanceAs (Decidable (_ ∧ _))

/-- A 64-bit floating-point number; `finite` stands for `± mant * 2 ^ exp`. -/
inductive Binary64 where
  | nan
  | infinite (negative : Bool)
  | finite (negative : Bool) (mant : Nat) (exp : Int) (canonical : Binary64.Canonical mant exp)
deriving DecidableEq

namespace Binary64

/-- Zero with the given sign. -/
def zero (negative : Bool) : Binary64 :=
  .finite negative 0 (-1074) (by decide)

instance : Inhabited Binary64 := ⟨zero false⟩

/-- The number with the given sign, mantissa and exponent; infinite if it is none of the finite ones. -/
def pack (negative : Bool) (mant : Nat) (exp : Int) : Binary64 :=
  if mant = 0 then zero negative
  else if h : Canonical mant exp then .finite negative mant exp h
  else .infinite negative

/-- Not a number. -/
def isNan : Binary64 → Bool
  | nan => true
  | _ => false

/-- Neither infinite nor not a number. -/
def isFinite : Binary64 → Bool
  | finite .. => true
  | _ => false

/-- The place of a number on the line, in units of `2 ^ -1074`. The infinite ones stand at `± 2 ^ 2098`,
beyond all finite ones. -/
def position : Binary64 → Int
  | nan => 0
  | infinite negative => if negative then -(Nat.pow 2 2098) else Nat.pow 2 2098
  | finite negative mant exp _ =>
    let units : Int := mant * Nat.pow 2 (exp + 1074).toNat
    if negative then -units else units

/-- Equality of values: nothing equals what is not a number, and the two zeros are equal. -/
def sameValue (x y : Binary64) : Bool :=
  !x.isNan && !y.isNan && x.position == y.position

/-- `x` lies below `y` on the line; false if either is not a number. -/
def below (x y : Binary64) : Bool :=
  !x.isNan && !y.isNan && decide (x.position < y.position)

/-- `x` does not lie above `y`; false if either is not a number. -/
def notAbove (x y : Binary64) : Bool :=
  !x.isNan && !y.isNan && decide (x.position ≤ y.position)

/-- The integer between zero and a finite number that is nearest to the number; zero otherwise. -/
def truncate : Binary64 → Int
  | finite negative mant exp _ =>
    let n : Nat := if 0 ≤ exp then mant * Nat.pow 2 exp.toNat else mant / Nat.pow 2 (-exp).toNat
    if negative then -n else n
  | _ => 0

/-- A finite number without a fractional part. -/
def isIntegral : Binary64 → Bool
  | finite _ mant exp _ => decide (0 ≤ exp) || mant % Nat.pow 2 (-exp).toNat == 0
  | _ => false

end Binary64

end Segmentation
