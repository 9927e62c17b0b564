import Segmentation.Number.Binary64.Shortest

/-!
# Decimal text of floating-point numbers

All texts show the shortest decimal. A `Layout` says where positional notation ends, how an exponent is
written, and what stands for the numbers that have no digits.
-/

namespace Segmentation.Binary64

/-- The choices of a decimal format. -/
structure Layout where
  /-- Leading exponents from here on are written positionally. -/
  positionalFrom : Int
  /-- Leading exponents from here on are no longer written positionally. -/
  positionalTo : Int
  /-- The exponent has at least this many digits. -/
  exponentDigits : Nat
  /-- A single digit before an exponent is followed by a point and a zero. -/
  pointBeforeExponent : Bool
  /-- The text of what is not a number. -/
  nan : String
  /-- The text of the positive infinite number. -/
  infinity : String
  /-- The text of the negative infinite number. -/
  negativeInfinity : String

/-- Plain text: positional from 0.0001 up to below 10^16, and two exponent digits at least. -/
def Layout.plain : Layout where
  positionalFrom := -4
  positionalTo := 16
  exponentDigits := 2
  pointBeforeExponent := false
  nan := "nan"
  infinity := "inf"
  negativeInfinity := "-inf"

/-- JSON text: positional from 0.00001 up to below 10^16, and null where there is no digit to write. -/
def Layout.json : Layout where
  positionalFrom := -5
  positionalTo := 16
  exponentDigits := 1
  pointBeforeExponent := false
  nan := "null"
  infinity := "null"
  negativeInfinity := "null"

/-- YAML text: as plain text, but with a point before every exponent and with dotted names. -/
def Layout.yaml : Layout where
  positionalFrom := -4
  positionalTo := 16
  exponentDigits := 2
  pointBeforeExponent := true
  nan := ".nan"
  infinity := ".inf"
  negativeInfinity := "-.inf"

/-- `cs` with zeros in front up to `width` characters. -/
def padLeft (width : Nat) (cs : List Char) : List Char :=
  List.replicate (width - cs.length) '0' ++ cs

/-- The digits of a natural number. -/
def digits (n : Nat) : List Char :=
  Nat.toDigits 10 n

/-- Positional notation of the digits `ds` times `10 ^ exp`, with at least one digit on each side of the
point. -/
def positional (ds : List Char) (exp : Int) : List Char :=
  if 0 ≤ exp then ds ++ List.replicate exp.toNat '0' ++ ['.', '0']
  else
    let places := (-exp).toNat
    let padded := padLeft (places + 1) ds
    padded.take (padded.length - places) ++ '.' :: padded.drop (padded.length - places)

/-- Exponent notation of the digits `ds` with leading exponent `leading`. -/
def exponential (layout : Layout) (ds : List Char) (leading : Int) : List Char :=
  let mantissa := match ds with
    | [] => []
    | [d] => if layout.pointBeforeExponent then [d, '.', '0'] else [d]
    | d :: rest => d :: '.' :: rest
  mantissa ++ 'e' :: (if leading < 0 then '-' else '+') ::
    padLeft layout.exponentDigits (digits leading.natAbs)

/-- A decimal magnitude in a layout. -/
def Layout.magnitude (layout : Layout) (d : Decimal.Scaled) : List Char :=
  let ds := digits d.digits
  let leading := d.exp + ds.length - 1
  if layout.positionalFrom ≤ leading ∧ leading < layout.positionalTo then positional ds d.exp
  else exponential layout ds leading

/-- The text of a number in a layout, as characters. -/
def textList (layout : Layout) : Binary64 → List Char
  | nan => layout.nan.toList
  | infinite negative => (if negative then layout.negativeInfinity else layout.infinity).toList
  | finite negative mant exp _ =>
    (if negative then ['-'] else []) ++
      (if mant = 0 then ['0', '.', '0'] else layout.magnitude (shortest mant exp))

/-- The text of a number in a layout. -/
def text (layout : Layout) (x : Binary64) : String :=
  String.ofList (textList layout x)

end Segmentation.Binary64
