/-!
# Dates

Days of the years 1 to 9999 in the Gregorian calendar, and their numbers in a row: the first day of the
year 1 has number 1.
-/

namespace Segmentation.Calendar

/-- A year with a 29th of February. -/
def isLeap (year : Nat) : Bool :=
  year % 4 = 0 && (year % 100 ≠ 0 || year % 400 = 0)

/-- The number of days in a month. -/
def daysInMonth (year month : Nat) : Nat :=
  match month with
  | 2 => if isLeap year then 29 else 28
  | 4 | 6 | 9 | 11 => 30
  | _ => 31

theorem daysInMonth_le (year month : Nat) : daysInMonth year month ≤ 31 := by
  unfold daysInMonth
  split
  · split <;> decide
  all_goals decide

/-- The three numbers name a day of the years 1 to 9999. -/
def IsDay (year month day : Nat) : Prop :=
  1 ≤ year ∧ year ≤ 9999 ∧ 1 ≤ month ∧ month ≤ 12 ∧ 1 ≤ day ∧ day ≤ daysInMonth year month

instance (year month day : Nat) : Decidable (IsDay year month day) :=
  inferInstanceAs (Decidable (_ ∧ _))

/-- A day of the years 1 to 9999. -/
structure Date where
  year : Nat
  month : Nat
  day : Nat
  isDay : IsDay year month day := by decide
deriving DecidableEq

namespace Date

instance : Inhabited Date := ⟨{ year := 1, month := 1, day := 1 }⟩

/-- The day that three numbers name, if they name one. -/
def of? (year month day : Nat) : Option Date :=
  if h : IsDay year month day then some ⟨year, month, day, h⟩ else none

end Date

/-- The days before the first of January of a year. -/
def daysBeforeYear (year : Nat) : Nat :=
  let y := year - 1
  y * 365 + y / 4 - y / 100 + y / 400

/-- The days of a year before the first of a month. -/
def daysBeforeMonth (year month : Nat) : Nat :=
  (List.range (month - 1)).foldl (fun days m => days + daysInMonth year (m + 1)) 0

/-- The number of the last day, the end of the year 9999. -/
def lastDayNumber : Nat := 3652059

namespace Date

/-- The number of the day, counted from the first day of the year 1. -/
def dayNumber (d : Date) : Nat :=
  daysBeforeYear d.year + daysBeforeMonth d.year d.month + d.day

end Date

/-- The month and day of the day that stands `rest` days after the first of `month`, looking at no more
than `fuel` months. -/
def monthAndDay (year : Nat) : (fuel month rest : Nat) → Nat × Nat
  | 0, month, rest => (month, rest + 1)
  | fuel + 1, month, rest =>
    if rest < daysInMonth year month then (month, rest + 1)
    else monthAndDay year fuel (month + 1) (rest - daysInMonth year month)

/-- The year of the day with a number, and how many days of the year stand before it. Cycles of 400, 100
and 4 years have the same number of days each, except that the last day of a cycle may be one too many. -/
def yearAndRest (number : Nat) : Nat × Nat :=
  let n := number - 1
  let (n400, n) := (n / 146097, n % 146097)
  let (n100, n) := (min 3 (n / 36524), n - 36524 * min 3 (n / 36524))
  let (n4, n) := (n / 1461, n % 1461)
  let n1 := min 3 (n / 365)
  (n400 * 400 + n100 * 100 + n4 * 4 + n1 + 1, n - n1 * 365)

/-- The day with a number, if it lies in the years 1 to 9999. -/
def Date.ofDayNumber? (number : Int) : Option Date :=
  if 1 ≤ number ∧ number ≤ lastDayNumber then
    let (year, rest) := yearAndRest number.toNat
    let (month, day) := monthAndDay year 11 1 rest
    Date.of? year month day
  else none

/-- The day of the week, Monday being 0. -/
def Date.weekday (d : Date) : Nat :=
  (d.dayNumber + 6) % 7

/-- The number of the Monday that starts the first week of a year: the week that holds the fourth of
January. -/
def firstMonday (year : Nat) : Int :=
  let first : Int := daysBeforeYear year + 1
  let weekday := (first + 6) % 7
  let monday := first - weekday
  if weekday ≤ 3 then monday else monday + 7

/-- The number of weeks in a year. -/
def weeksInYear (year : Nat) : Nat :=
  let weekday := (daysBeforeYear year + 7) % 7
  if weekday = 3 || (weekday = 2 && isLeap year) then 53 else 52

/-- The day of a year that is given by its week and its place in the week, Monday being 1. -/
def Date.ofWeek? (year week place : Nat) : Option Date :=
  if 1 ≤ year ∧ 1 ≤ week ∧ week ≤ weeksInYear year ∧ 1 ≤ place ∧ place ≤ 7 then
    Date.ofDayNumber? (firstMonday year + (week - 1) * 7 + (place - 1))
  else none

end Segmentation.Calendar
