import Segmentation.Calendar.DateTime
import Segmentation.Number.Binary64.Round

/-!
# Spans of days

A span is a number of microseconds that is worth less than a thousand million days. A fraction of a day is
multiplied out in floating point; the sum goes to the nearest microsecond, a tie to the even one.
-/

namespace Segmentation.Calendar

/-- `num / den` to the nearest integer, a tie to the even one. -/
def nearest (num : Int) (den : Nat) : Int :=
  let floor := num / den
  let rest := num % den
  if 2 * rest < den then floor
  else if den < 2 * rest then floor + 1
  else floor + floor % 2

/-- The magnitude of a finite number of days as whole days, and the rest of a day in microseconds as a
quotient. -/
def daysAndMicros (mant : Nat) (exp : Int) : Nat × Nat × Nat :=
  if 0 ≤ exp then (mant * Nat.pow 2 exp.toNat, 0, 1)
  else
    let den := Nat.pow 2 (-exp).toNat
    match Binary64.ofRatio false (mant % den * microsPerDay) den with
    | .finite _ m e _ =>
      if 0 ≤ e then (mant / den, m * Nat.pow 2 e.toNat, 1) else (mant / den, m, Nat.pow 2 (-e).toNat)
    | _ => (mant / den, 0, 1)

/-- The greatest number of whole days in a span. -/
def maxSpanDays : Int := 999999999

/-- The microseconds of a number of days; none for what is not a number of days or too many of them. -/
def microsOfDays? : Binary64 → Option Int
  | .finite negative mant exp _ =>
    let (days, num, den) := daysAndMicros mant exp
    let magnitude : Int := (days * microsPerDay * den + num : Nat)
    let micros := nearest (if negative then -magnitude else magnitude) den
    let whole := micros / microsPerDay
    if -maxSpanDays ≤ whole ∧ whole ≤ maxSpanDays then some micros else none
  | _ => none

/-- The instant that lies a span before a datetime, provided that the day stays within the years 1 to
9999 by the clock of the datetime. -/
def DateTime.instantBefore? (d : DateTime) (micros : Int) : Option Int :=
  let wall := d.wall - micros
  let day := wall / microsPerDay
  if 1 ≤ day ∧ day ≤ lastDayNumber then some (wall - d.offset.getD 0) else none

end Segmentation.Calendar
