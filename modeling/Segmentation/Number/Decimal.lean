import Segmentation.Number.Binary64.Reader
import Segmentation.Number.Binary64.Text

/-!
# Arbitrary-precision decimals

A decimal keeps its digits as written. Its text is positional as long as the exponent is not positive and
the leading digit stands at most six places behind the point.
-/

namespace Segmentation

/-- A decimal number `± coefficient * 10 ^ exp`, or one of the special values. What is not a number may
carry digits, and is quiet or signals. -/
inductive Decimal where
  | finite (negative : Bool) (coefficient : Nat) (exp : Int)
  | infinite (negative : Bool)
  | nan (negative : Bool) (signalling : Bool) (payload : Nat)
deriving DecidableEq

namespace Decimal

/-- The text of an unsigned decimal. -/
def magnitude (coefficient : Nat) (exp : Int) : List Char :=
  let ds := Binary64.digits coefficient
  let leading := exp + ds.length - 1
  if exp ≤ 0 ∧ -6 ≤ leading then
    if exp = 0 then ds
    else
      let places := (-exp).toNat
      let padded := Binary64.padLeft (places + 1) ds
      padded.take (padded.length - places) ++ '.' :: padded.drop (padded.length - places)
  else
    let mantissa := match ds with
      | d :: e :: rest => d :: '.' :: e :: rest
      | one => one
    mantissa ++ 'E' :: (if leading < 0 then '-' else '+') :: Binary64.digits leading.natAbs

/-- The sign of a text. -/
def sign (negative : Bool) : List Char :=
  if negative then ['-'] else []

/-- The text of a decimal. -/
def text : Decimal → String
  | finite negative coefficient exp => String.ofList (sign negative ++ magnitude coefficient exp)
  | infinite negative => String.ofList (sign negative ++ "Infinity".toList)
  | nan negative signalling payload =>
    String.ofList (sign negative ++ (if signalling then "sNaN" else "NaN").toList ++
      (if payload = 0 then [] else Binary64.digits payload))

/-- Reads a decimal: digits with an optional point and exponent, or the name of a special value. -/
def ofText? (s : String) : Option Decimal :=
  let cs := (Text.asciiDigits (Text.trimList Text.isBlank s.toList)).filter (· ≠ '_')
  let (negative, rest) := Integer.splitSign cs
  let name := rest.map Char.toLower
  if name = "inf".toList || name = "infinity".toList then some (.infinite negative)
  else if "snan".toList.isPrefixOf name then
    (Integer.ofDigits? 0 (name.drop 4)).map (.nan negative true)
  else if "nan".toList.isPrefixOf name then
    (Integer.ofDigits? 0 (name.drop 3)).map (.nan negative false)
  else (Binary64.DecimalParts.ofList? rest).map fun p =>
    .finite negative ((Integer.ofDigits? 0 (p.whole ++ p.fraction)).getD 0)
      (p.exponent - p.fraction.length)

/-- Zero is the only decimal that counts as blank. -/
def isZero : Decimal → Bool
  | finite _ coefficient _ => coefficient = 0
  | _ => false

/-- The nearest floating-point number; a signalling value has none. -/
def toBinary64? : Decimal → Option Binary64
  | finite negative coefficient exp => some (.ofDecimal negative coefficient exp)
  | infinite negative => some (.infinite negative)
  | nan _ signalling _ => if signalling then none else some .nan

end Decimal

end Segmentation
