import Segmentation.Number.Binary64.Round

/-!
# The shortest decimal of a floating-point number

The reals that round to a number form an interval, which holds its ends exactly if the mantissa is even.
Among the decimals in it the ones with the fewest digits are chosen, of those the nearest one, and of two
equally near ones the one whose last digit is even.
-/

namespace Segmentation

/-- The magnitude `digits * 10 ^ exp`. -/
structure Decimal.Scaled where
  digits : Nat
  exp : Int
deriving DecidableEq, Repr

namespace Binary64

/-- The interval of reals that round to `mant * 2 ^ exp`, in units of `2 ^ (exp - 2)`. -/
structure Interval where
  low : Nat
  value : Nat
  high : Nat
  closed : Bool

/-- The interval of a canonical pair. Below a power of two the grid is twice as fine. -/
def interval (mant : Nat) (exp : Int) : Interval where
  low := if mant = Nat.pow 2 52 ∧ -1074 < exp then 4 * mant - 1 else 4 * mant - 2
  value := 4 * mant
  high := 4 * mant + 2
  closed := mant % 2 = 0

/-- `n / d` lies in the interval. -/
def Interval.holds (i : Interval) (n d : Nat) : Bool :=
  if i.closed then i.low * d ≤ n && n ≤ i.high * d else i.low * d < n && n < i.high * d

/-- The decimal exponent of the leading digit of `num / den`. -/
def leadingExponent (num den : Nat) : Int :=
  if den ≤ num then (digitCount (num / den) : Int) - 1
  else
    let size := digitCount (den / num)
    if num * Nat.pow 10 (size - 1) = den then 1 - (size : Int) else -(size : Int)

/-- `n * 10 ^ k` as a quotient. -/
def tenScaled (n : Nat) (k : Int) : Nat × Nat :=
  if 0 ≤ k then (n * Nat.pow 10 k.toNat, 1) else (n, Nat.pow 10 (-k).toNat)

/-- The point of the decimal grid `10 ^ grid` that stands for the interval, if it holds one. -/
def Interval.onGrid? (i : Interval) (exp : Int) (grid : Int) : Option Nat :=
  -- All in units of the grid: the value is `i.value * 2 ^ (exp - 2) / 10 ^ grid`.
  let (binNum, binDen) := scale 1 1 (2 - exp)
  let (tenNum, tenDen) := tenScaled 1 (-grid)
  let num := binNum * tenNum
  let den := binDen * tenDen
  let below := i.value * num / den
  let above := below + 1
  let hasBelow := 0 < below && i.holds (below * den) num
  let hasAbove := i.holds (above * den) num
  if hasBelow && hasAbove then
    let toBelow := i.value * num - below * den
    let toAbove := above * den - i.value * num
    if toBelow < toAbove || (toBelow = toAbove && below % 2 = 0) then some below else some above
  else if hasBelow then some below
  else if hasAbove then some above
  else none

/-- The first hit on the grids that show `count`, `count + 1`, … digits. -/
def Interval.search (i : Interval) (exp leading : Int) : (fuel count : Nat) → Decimal.Scaled
  | 0, _ => ⟨i.value, 0⟩
  | fuel + 1, count =>
    let grid := leading + 1 - count
    match i.onGrid? exp grid with
    -- Only the coarsest grid can be hit in a multiple of ten: ten itself.
    | some n => if n % 10 = 0 then ⟨n / 10, grid + 1⟩ else ⟨n, grid⟩
    | none => i.search exp leading fuel (count + 1)

/-- The shortest decimal that rounds to `mant * 2 ^ exp`; seventeen digits always suffice. -/
def shortest (mant : Nat) (exp : Int) : Decimal.Scaled :=
  let (num, den) := scale mant 1 (-exp)
  let leading := leadingExponent num den
  (interval mant exp).search exp leading 17 1

end Binary64

end Segmentation
