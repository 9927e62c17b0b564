/-!
# Ranges of characters

Sets of characters given as tables of code point ranges, and stepped ranges that shift code points.
-/

namespace Segmentation.Text

/-- `c` lies in one of the closed ranges of code points. -/
def inRanges (ranges : Array (Nat × Nat)) (c : Char) : Bool :=
  ranges.toList.any fun r => r.1 ≤ c.toNat && c.toNat ≤ r.2

/-- The code points `first`, `first + step`, … up to `last`, each moved by `shift`. -/
structure ShiftRange where
  first : Nat
  last : Nat
  step : Nat
  shift : Int

/-- The moved code point, if `n` is one of the range. -/
def ShiftRange.shifted? (r : ShiftRange) (n : Nat) : Option Nat :=
  if r.first ≤ n ∧ n ≤ r.last ∧ (n - r.first) % r.step = 0 then some (n + r.shift).toNat else none

/-- The character that the first matching range moves `c` to, or `c` itself. -/
def shiftChar (ranges : Array ShiftRange) (c : Char) : Char :=
  match ranges.toList.findSome? (·.shifted? c.toNat) with
  | some n => Char.ofNat n
  | none => c

end Segmentation.Text
