import Segmentation.Calendar.Iso
import Segmentation.Calendar.Span
import Segmentation.Number.Binary64
import Segmentation.Number.Integer

/-!
# Stored times

A stored time is given as text in a strict form, as a date alone, or as a number of seconds since the start
of 1970 in UTC; numbers beyond twenty thousand million count milliseconds. In text such a number has no exponent.
-/

namespace Segmentation.Calendar.Stored

open Iso (digits?)

/-- Reads a date with hyphens, and gives what follows it. -/
def date? (cs : List Char) : Option (Date × List Char) := do
  let (year, rest) ← digits? 4 0 cs
  let rest ← Iso.hyphen? true rest
  let (month, rest) ← digits? 2 0 rest
  let rest ← Iso.hyphen? true rest
  let (day, rest) ← digits? 2 0 rest
  pure (← Date.of? year month day, rest)

/-- Reads the seconds with their fraction, if a colon follows the minutes. Digits after the sixth are passed
over. -/
def seconds? : List Char → Option (Nat × List Char)
  | ':' :: cs => do
    let (seconds, rest) ← digits? 2 0 cs
    match rest with
    | c :: after =>
      if c = '.' || c = ',' then
        let ds := after.takeWhile Char.isDigit
        if ds.isEmpty then none
        else
          let kept := ds.take 6
          let fraction := (Integer.ofDigits? 0 kept).getD 0 * Nat.pow 10 (6 - kept.length)
          if seconds < 60 then
            pure (seconds * microsPerSecond + fraction, after.dropWhile Char.isDigit)
          else none
      else if seconds < 60 then pure (seconds * microsPerSecond, rest) else none
    | [] => if seconds < 60 then pure (seconds * microsPerSecond, rest) else none
  | cs => some (0, cs)

/-- The sign of a distance from UTC; a minus sign may be typographical. -/
def sign? : Char → Option Int
  | '+' => some 1
  | '-' => some (-1)
  | '−' => some (-1)
  | _ => none

/-- Reads a distance from UTC up to the end of the text. -/
def zone? : List Char → Option (Option Int)
  | [] => some none
  | ['Z'] | ['z'] => some (some 0)
  | c :: cs => do
    let sign ← sign? c
    let (hours, rest) ← digits? 2 0 cs
    let rest := match rest with
      | ':' :: r => r
      | r => r
    let (minutes, rest) ← digits? 2 0 rest
    if rest.isEmpty && minutes < 60 then
      pure (some (sign * ((hours * 60 + minutes) * 60 * microsPerSecond : Nat)))
    else none

/-- A character that may stand between date and time. -/
def isSeparator (c : Char) : Bool :=
  c = 'T' || c = 't' || c = ' ' || c = '_'

/-- Reads a time in the strict form, or a date alone. -/
def dateTimeText? (cs : List Char) : Option DateTime := do
  let (date, rest) ← date? cs
  match rest with
  | [] => some (.midnight date)
  | c :: rest =>
    if isSeparator c then
      let (hours, rest) ← digits? 2 0 rest
      match rest with
      | ':' :: rest =>
        let (minutes, rest) ← digits? 2 0 rest
        let (micros, rest) ← seconds? rest
        let offset ← zone? rest
        if hours < 24 ∧ minutes < 60 then
          DateTime.of? date ((hours * 60 + minutes) * 60 * microsPerSecond + micros) offset
        else none
      | _ => none
    else none

/-- Numbers up to here count seconds, larger ones milliseconds. -/
def watershed : Int := 20000000000

/-- The number of the first day of 1970. -/
def epochDayNumber : Int := 719163

/-- The first second of the year 1600, before which no time is counted. -/
def firstSecond : Int := -11676096000

/-- The time that lies a number of seconds and some microseconds after the start of 1970 in UTC. -/
def ofSeconds? (seconds : Int) (micros : Nat) : Option DateTime := do
  let total := seconds * microsPerSecond + micros
  let date ← Date.ofDayNumber? (epochDayNumber + total / microsPerDay)
  if seconds < firstSecond then none else DateTime.of? date (total % microsPerDay).toNat (some 0)

/-- The time that lies a number of seconds or milliseconds, and some microseconds, after the start of 1970
in UTC. -/
def ofEpoch? (count : Int) (micros : Nat) : Option DateTime :=
  if count.natAbs ≤ watershed then ofSeconds? count micros
  else ofSeconds? (count / 1000) ((count % 1000).toNat * 1000 + micros)

/-- The greatest integer that is not above a finite number. -/
def floor : Binary64 → Int
  | .finite negative mant exp _ =>
    let signed : Int := if negative then -mant else mant
    if 0 ≤ exp then signed * Nat.pow 2 exp.toNat else signed / Nat.pow 2 (-exp).toNat
  | _ => 0

/-- The digits after the point of a finite number, to the nearest microsecond. -/
def fractionMicros : Binary64 → Nat
  | .finite _ mant exp _ =>
    if 0 ≤ exp then 0
    else
      let den := Nat.pow 2 (-exp).toNat
      (2 * (mant % den) * microsPerSecond + den) / (2 * den)
  | _ => 0

/-- The time that a floating-point number counts. -/
def ofFloat? (x : Binary64) : Option DateTime :=
  if x.isFinite then ofEpoch? (floor x) (fractionMicros x) else none

/-- Reads digits that may have a sign before them, and a point with more digits or none behind them. The result is an
integer and how many of its digits stand behind the point. -/
def decimal? (cs : List Char) : Option (Int × Nat) :=
  let (negative, cs) := Integer.splitSign cs
  let whole := cs.takeWhile Char.isDigit
  let fraction := match cs.dropWhile Char.isDigit with
    | [] => some []
    | '.' :: ds => if ds.all Char.isDigit then some ds else none
    | _ => none
  if whole.isEmpty then none
  else do
    let ds ← fraction
    let mant ← Integer.ofDigits? 0 (whole ++ ds)
    pure (if negative then -mant else mant, ds.length)

/-- The time that a number with some digits behind the point counts, to the nearest microsecond. -/
def ofDecimal? (mant : Int) (places : Nat) : Option DateTime :=
  let one := Nat.pow 10 places
  let den := if mant.natAbs ≤ watershed * one then one else one * 1000
  ofSeconds? (mant / den) ((2 * (mant % den).toNat * microsPerSecond + den) / (2 * den))

/-- The time that a text denotes: in the strict form, as a date, or as a number. -/
def ofText? (s : String) : Option DateTime :=
  match dateTimeText? s.toList with
  | some d => some d
  | none => (decimal? s.toList).bind fun (mant, places) => ofDecimal? mant places

end Segmentation.Calendar.Stored
