import Segmentation.Number.Binary64.Round
import Segmentation.Number.Integer
import Segmentation.Text.Case

/-!
# Reading floating-point numbers

A decimal has a sign, digits with at most one point among them, and an exponent; sign and exponent may be
missing. It stands for the number nearest to it. Also read are the names of what is infinite or not a
number, in any case.
-/

namespace Segmentation.Binary64

/-- An unsigned decimal: the digits on both sides of the point, and the exponent. -/
structure DecimalParts where
  whole : List Char
  fraction : List Char
  exponent : Int

/-- Splits off an exponent that makes up the whole rest; an empty rest means exponent zero. -/
def exponentOf? : List Char → Option Int
  | [] => some 0
  | c :: cs =>
    if c = 'e' || c = 'E' then
      let (negative, ds) := Integer.splitSign cs
      if ds.isEmpty then none
      else (Integer.ofDigits? 0 ds).map fun n => if negative then -n else n
    else none

/-- Reads an unsigned decimal with at least one digit beside its point. -/
def DecimalParts.ofList? (cs : List Char) : Option DecimalParts :=
  let whole := cs.takeWhile Char.isDigit
  let (fraction, rest) := match cs.dropWhile Char.isDigit with
    | '.' :: after => (after.takeWhile Char.isDigit, after.dropWhile Char.isDigit)
    | rest => ([], rest)
  if whole.isEmpty && fraction.isEmpty then none
  else (exponentOf? rest).map fun e => ⟨whole, fraction, e⟩

/-- The number nearest to a signed decimal. -/
def DecimalParts.toBinary64 (p : DecimalParts) (negative : Bool) : Binary64 :=
  ofDecimal negative ((Integer.ofDigits? 0 (p.whole ++ p.fraction)).getD 0)
    (p.exponent - p.fraction.length)

/-- Reads a decimal or one of the names, after an optional sign. -/
def ofSigned? (cs : List Char) : Option Binary64 :=
  let (negative, rest) := Integer.splitSign cs
  let name := String.ofList (rest.map Char.toLower)
  if name = "inf" || name = "infinity" then some (.infinite negative)
  else if name = "nan" then some .nan
  else (DecimalParts.ofList? rest).map (·.toBinary64 negative)

/-- Reads a number from text with blanks around it, digits of any script, and single underscores between
digits. -/
def ofText? (s : String) : Option Binary64 :=
  (Integer.withoutUnderscores? false (Text.asciiDigits (Text.trimList Text.isBlank s.toList))).bind
    ofSigned?

end Segmentation.Binary64
