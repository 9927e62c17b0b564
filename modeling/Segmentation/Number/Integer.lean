import Segmentation.Text.Blank
import Segmentation.Text.Numeral

/-!
# Integers and their decimal text

Only integers of at most 4300 digits have a text; longer ones can be computed with but neither written nor
read. Digits of any script are read, and a single underscore may stand between two digits.
-/

namespace Segmentation.Integer

/-- The greatest number of digits that a text of an integer has. -/
def maxDigits : Nat := 4300

/-- The integer is short enough to have a text. -/
def HasText (n : Int) : Prop :=
  n.natAbs < Nat.pow 10 maxDigits

instance (n : Int) : Decidable (HasText n) :=
  inferInstanceAs (Decidable (_ < _))

/-- The sign and the digits of an integer. -/
def digits (n : Int) : List Char :=
  (if n < 0 then ['-'] else []) ++ Nat.toDigits 10 n.natAbs

/-- The decimal text of an integer, if it has one. -/
def text? (n : Int) : Option String :=
  if HasText n then some (String.ofList (digits n)) else none

/-- The number that ASCII digits stand for, continuing from `acc`; none if anything else is among them. -/
def ofDigits? (acc : Nat) : List Char → Option Nat
  | [] => some acc
  | c :: cs => if c.isDigit then ofDigits? (acc * 10 + (c.toNat - 48)) cs else none

/-- Removes single underscores that stand between two digits; none if an underscore stands elsewhere. -/
def withoutUnderscores? (afterDigit : Bool) : List Char → Option (List Char)
  | [] => some []
  | '_' :: cs =>
    match cs with
    | d :: _ => if afterDigit && d.isDigit then withoutUnderscores? false cs else none
    | [] => none
  | c :: cs => (withoutUnderscores? c.isDigit cs).map (c :: ·)

/-- A sign, if there is one, and what follows it. -/
def splitSign : List Char → Bool × List Char
  | '-' :: cs => (true, cs)
  | '+' :: cs => (false, cs)
  | cs => (false, cs)

/-- Reads a sign and at least one digit. -/
def ofSigned? (cs : List Char) : Option Int :=
  let (negative, ds) := splitSign cs
  if ds.isEmpty || maxDigits < ds.length then none
  else (ofDigits? 0 ds).map fun n => if negative then -n else n

/-- Reads the text of an integer, with white space around it allowed. -/
def ofText? (s : String) : Option Int :=
  (withoutUnderscores? false (Text.asciiDigits (Text.trimList Text.isSpace s.toList))).bind ofSigned?

end Segmentation.Integer
