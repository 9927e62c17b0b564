import Segmentation.Calendar.DateTime

/-!
# Reading ISO 8601 datetimes

A date is given by month and day or by week and day of the week, with hyphens or without. After any one
character a time of day may follow: hours, minutes and seconds with colons or without, a fraction after the
last of them, and a distance from UTC or the letter Z. Where the length of the date part is in doubt, the
characters after the year decide. The reader counts in bytes of UTF-8.
-/

namespace Segmentation.Calendar.Iso

/-- The bytes of a character in UTF-8, each as a character of that number. -/
def utf8Units (c : Char) : List Char :=
  let n := c.toNat
  let tail (shift : Nat) : Char := Char.ofNat (0x80 + n / Nat.pow 2 shift % 64)
  if n < 0x80 then [c]
  else if n < 0x800 then [Char.ofNat (0xc0 + n / 64), tail 0]
  else if n < 0x10000 then [Char.ofNat (0xe0 + n / 4096), tail 6, tail 0]
  else [Char.ofNat (0xf0 + n / 262144), tail 12, tail 6, tail 0]

/-- Reads exactly `count` digits, continuing the number `acc`. -/
def digits? : (count acc : Nat) → List Char → Option (Nat × List Char)
  | 0, acc, cs => some (acc, cs)
  | count + 1, acc, c :: cs =>
    if c.isDigit then digits? count (acc * 10 + (c.toNat - 48)) cs else none
  | _ + 1, _, [] => none

/-- Reads a hyphen if the parts of the date are separated, else nothing. -/
def hyphen? (separated : Bool) : List Char → Option (List Char)
  | '-' :: cs => if separated then some cs else some ('-' :: cs)
  | cs => if separated then none else some cs

/-- Reads a date from a text of which the first `length` characters are meant to be the date. -/
def date? (length : Nat) (cs : List Char) : Option Date := do
  let (year, rest) ← digits? 4 0 cs
  let (separated, rest) := match rest with
    | '-' :: r => (true, r)
    | r => (false, r)
  match rest with
  | 'W' :: rest =>
    let (week, rest) ← digits? 2 0 rest
    if cs.length - rest.length < length then
      let rest ← hyphen? separated rest
      let (place, _) ← digits? 1 0 rest
      Date.ofWeek? year week place
    else Date.ofWeek? year week 1
  | rest =>
    let (month, rest) ← digits? 2 0 rest
    let rest ← hyphen? separated rest
    let (day, rest) ← digits? 2 0 rest
    if cs.length - rest.length = length then Date.of? year month day else none

/-- How many characters of the text make up the date; none if that cannot be told. -/
def dateLength? (cs : List Char) : Option Nat :=
  let digitAt (i : Nat) : Bool := cs[i]?.any Char.isDigit
  if cs.length = 7 then some 7
  else if cs[4]? = some '-' then
    if cs[5]? = some 'W' then
      if cs[8]? = some '-' then
        if cs.length = 9 then none else if digitAt 10 then some 8 else some 10
      else some 8
    else some 10
  else if cs[4]? = some 'W' then
    let stop := 7 + ((cs.drop 7).takeWhile Char.isDigit).length
    if stop < 9 then some stop else if stop % 2 = 0 then some 7 else some 8
  else some 8

/-- Parts of a clock reading, and whether something is left behind them. -/
structure Clock where
  hours : Nat
  minutes : Nat
  seconds : Nat
  micros : Nat
  leftover : Bool

/-- A character other than NUL starts what is left. -/
def isLeftover : List Char → Bool
  | [] => false
  | c :: _ => c ≠ '\x00'

/-- Reads a fraction of a second: up to six digits, and further ones that are passed over. -/
def fraction? (cs : List Char) : Option (Nat × Bool) := do
  let count := min 6 cs.length
  let (n, rest) ← digits? count 0 cs
  pure (n * Nat.pow 10 (6 - count), isLeftover (rest.dropWhile Char.isDigit))

/-- What follows two digits of a clock reading. -/
inductive Next where
  | done (leftover : Bool)
  | component (rest : List Char)
  | fraction (rest : List Char)

/-- Decides what follows two digits, given whether colons are in use. -/
def next? (colons : Bool) : List Char → Option Next
  | [] => some (.done false)
  | [c] => some (.done (c ≠ '\x00'))
  | c :: cs =>
    if colons && c = ':' then some (.component cs)
    else if c = '.' || c = ',' then some (.fraction cs)
    else if !colons then some (.component (c :: cs))
    else none

/-- Reads a clock: two digits each for hours, minutes and seconds, the latter two optional, and a fraction.
Colons stand between all of them or nowhere. -/
def clock? (cs : List Char) : Option Clock := do
  let (hours, rest) ← digits? 2 0 cs
  let colons := rest.head? = some ':'
  match ← next? colons rest with
  | .done leftover => pure ⟨hours, 0, 0, 0, leftover⟩
  | .fraction rest =>
    let (micros, leftover) ← fraction? rest
    pure ⟨hours, 0, 0, micros, leftover⟩
  | .component rest =>
    let (minutes, rest) ← digits? 2 0 rest
    match ← next? colons rest with
    | .done leftover => pure ⟨hours, minutes, 0, 0, leftover⟩
    | .fraction rest =>
      let (micros, leftover) ← fraction? rest
      pure ⟨hours, minutes, 0, micros, leftover⟩
    | .component rest =>
      let (seconds, rest) ← digits? 2 0 rest
      match ← next? colons rest with
      | .done leftover => pure ⟨hours, minutes, seconds, 0, leftover⟩
      | .fraction rest | .component rest =>
        let (micros, leftover) ← fraction? rest
        pure ⟨hours, minutes, seconds, micros, leftover⟩

namespace Clock

/-- The reading in microseconds. -/
def total (c : Clock) : Nat :=
  ((c.hours * 60 + c.minutes) * 60 + c.seconds) * microsPerSecond + c.micros

/-- The time of day, if hours, minutes and seconds are in range. -/
def timeOfDay? (c : Clock) : Option Nat :=
  if c.hours < 24 ∧ c.minutes < 60 ∧ c.seconds < 60 then some c.total else none

end Clock

/-- A character that starts a distance from UTC. -/
def startsZone (c : Char) : Bool :=
  c = '+' || c = '-' || c = 'Z'

/-- Reads a time of day and a distance from UTC. What is left between them is passed over. -/
def time? (cs : List Char) : Option (Nat × Option Int) := do
  let clock ← clock? (cs.takeWhile (!startsZone ·))
  let time ← clock.timeOfDay?
  match cs.dropWhile (!startsZone ·) with
  | [] => if clock.leftover then none else pure (time, none)
  | ['Z'] => pure (time, some 0)
  | sign :: rest =>
    if sign = 'Z' then none
    else
      let zone ← clock? rest
      if zone.leftover then none
      else pure (time, some (if sign = '-' then -(zone.total : Int) else zone.total))

/-- Reads a datetime. -/
def dateTimeList? (text : List Char) : Option DateTime := do
  let cs := text.flatMap utf8Units
  if cs.length < 7 then none
  else
    let length ← dateLength? cs
    let date ← date? length cs
    match cs.drop length with
    | [] => some (.midnight date)
    | separator :: rest =>
      -- The character between date and time is skipped with all its bytes.
      let (time, offset) ← time? (rest.drop (
        if separator.toNat < 0x80 then 0
        else if separator.toNat / 16 = 14 then 2
        else if separator.toNat / 16 = 15 then 3
        else 1))
      DateTime.of? date time offset

/-- Reads a datetime. -/
def dateTime? (s : String) : Option DateTime :=
  dateTimeList? s.toList

end Segmentation.Calendar.Iso
