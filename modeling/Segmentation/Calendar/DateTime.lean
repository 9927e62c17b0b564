import Segmentation.Calendar.Date
import Segmentation.Number.Binary64.Text

/-!
# Dates with a time of day

Times count microseconds since midnight. A date with a time may say how far its clock is ahead of UTC; one
that does not is naive. The instant that a datetime denotes is counted in microseconds of UTC; a naive one
is read as UTC.
-/

namespace Segmentation.Calendar

/-- Microseconds in a second. -/
def microsPerSecond : Nat := 1000000

/-- Microseconds in a day. -/
def microsPerDay : Nat := 86400000000

/-- A day, a time of day, and possibly the distance of the clock from UTC, all in microseconds. -/
structure DateTime where
  date : Date
  time : Nat
  offset : Option Int
  time_lt : time < microsPerDay
  offset_lt : ∀ o ∈ offset, o.natAbs < microsPerDay
deriving DecidableEq

namespace DateTime

/-- Midnight of a day, by a clock that does not say where it is. -/
def midnight (date : Date) : DateTime where
  date := date
  time := 0
  offset := none
  time_lt := by decide
  offset_lt := by simp

instance : Inhabited DateTime := ⟨midnight default⟩

/-- The datetime with the given parts, if they are in range. -/
def of? (date : Date) (time : Nat) (offset : Option Int) : Option DateTime :=
  if h : time < microsPerDay ∧ ∀ o ∈ offset, o.natAbs < microsPerDay then
    some ⟨date, time, offset, h.1, h.2⟩
  else none

/-- The same datetime, a naive one being placed in UTC. -/
def inUtcIfNaive (d : DateTime) : DateTime :=
  match d.offset with
  | none => { d with offset := some 0, offset_lt := by decide }
  | some _ => d

/-- Microseconds from the start of day number 0 by the datetime's own clock. -/
def wall (d : DateTime) : Int :=
  d.date.dayNumber * microsPerDay + d.time

/-- The instant in microseconds of UTC; a naive datetime is read as UTC. -/
def instant (d : DateTime) : Int :=
  d.wall - d.offset.getD 0

/-- The number of the day that the instant falls on in UTC. -/
def utcDayNumber (d : DateTime) : Int :=
  d.instant / microsPerDay

/-- Whether two datetimes are the same moment; a naive one is never the same as one with an offset. -/
def sameMoment (a b : DateTime) : Bool :=
  a.offset.isSome == b.offset.isSome && a.instant == b.instant

end DateTime

/-- A number with at least `width` digits, filled up with zeros. -/
def padded (width n : Nat) : List Char :=
  Binary64.padLeft width (Binary64.digits n)

/-- A date as year, month and day with hyphens between. -/
def Date.textList (d : Date) : List Char :=
  padded 4 d.year ++ '-' :: padded 2 d.month ++ '-' :: padded 2 d.day

/-- A date as year, month and day with hyphens between. -/
def Date.text (d : Date) : String :=
  String.ofList d.textList

/-- Hours and minutes of a number of microseconds. -/
def hoursAndMinutes (micros : Nat) : List Char :=
  let minutes := micros / microsPerSecond / 60
  padded 2 (minutes / 60) ++ ':' :: padded 2 (minutes % 60)

/-- The seconds within the minute. -/
def secondsText (micros : Nat) : List Char :=
  ':' :: padded 2 (micros / microsPerSecond % 60)

/-- The microseconds within the second, if there are any. -/
def fractionText (micros : Nat) : List Char :=
  let fraction := micros % microsPerSecond
  if fraction = 0 then [] else '.' :: padded 6 fraction

/-- A time of day with seconds. -/
def clockText (time : Nat) : List Char :=
  hoursAndMinutes time ++ secondsText time ++ fractionText time

/-- A distance from UTC; seconds are shown only if there are any. -/
def offsetText (offset : Int) : List Char :=
  let micros := offset.natAbs
  (if offset < 0 then '-' else '+') :: hoursAndMinutes micros ++
    (if micros / microsPerSecond % 60 = 0 ∧ micros % microsPerSecond = 0 then []
     else secondsText micros ++ fractionText micros)

namespace DateTime

/-- The text of a datetime with a character between date and time. -/
def textWith (separator : Char) (d : DateTime) : String :=
  String.ofList (d.date.textList ++ separator :: clockText d.time ++
    (match d.offset with
     | none => []
     | some o => offsetText o))

/-- The ISO text of a datetime. -/
def isoText (d : DateTime) : String :=
  d.textWith 'T'

/-- The text of a stored time: as the ISO text, but with the letter Z for a clock in UTC, and other
distances to the minute. -/
def storedText (d : DateTime) : String :=
  String.ofList (d.date.textList ++ 'T' :: clockText d.time ++
    (match d.offset with
     | none => []
     | some 0 => ['Z']
     | some o => (if o < 0 then '-' else '+') :: hoursAndMinutes o.natAbs))

/-- Day, hours and minutes, as shown in lists; the year is not filled up. -/
def minuteText (d : DateTime) : String :=
  String.ofList (Binary64.digits d.date.year ++ '-' :: padded 2 d.date.month ++ '-' ::
    padded 2 d.date.day ++ ' ' :: hoursAndMinutes d.time)

/-- Day and time of day to the millisecond, as written at the start of log entries. -/
def stampText (d : DateTime) : String :=
  let micros := d.time % microsPerSecond
  String.ofList (d.date.textList ++ ' ' :: clockText (d.time - micros) ++ ',' ::
    padded 3 (micros / 1000))

end DateTime

end Segmentation.Calendar
