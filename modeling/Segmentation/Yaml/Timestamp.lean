import Segmentation.Number.Integer
import Segmentation.Value
import Segmentation.Yaml.Cursor

/-!
# Dates and times in YAML

A date is a year, a month and a day. A time of day may follow it after a `T` or blanks: hours, minutes and
seconds, perhaps with a fraction, and perhaps a distance from UTC.
-/

namespace Segmentation.Yaml

/-- The text of a date or time, taken apart. -/
structure Timestamp where
  year : List Char
  month : List Char
  day : List Char
  /-- Hours, minutes, seconds, digits of the fraction, and the sign, hours and minutes from UTC. -/
  time : Option (List Char × List Char × List Char × List Char × Option (Bool × List Char × List Char))

namespace Timestamp

/-- Takes at least `least` and at most `most` digits. -/
def digits? (least most : Nat) (cs : List Char) : Option (List Char × List Char) :=
  let ds := (cs.take most).takeWhile Char.isDigit
  if least ≤ ds.length then some (ds, cs.drop ds.length) else none

/-- Takes a character. -/
def sign? (c : Char) : List Char → Option (List Char)
  | d :: cs => if c = d then some cs else none
  | [] => none

/-- The distance from UTC that makes up the rest, if there is one. -/
def zone? (cs : List Char) : Option (Option (Bool × List Char × List Char)) :=
  match cs with
  | [] => some none
  | _ =>
    match cs.dropWhile isBlank with
    | ['Z'] => some (some (false, ['0'], []))
    | s :: rest =>
      if s = '+' || s = '-' then do
        let (hours, rest) ← digits? 1 2 rest
        match rest with
        | [] => return some (s = '-', hours, [])
        | _ =>
          let (minutes, rest) ← digits? 2 2 (← sign? ':' rest)
          if rest.isEmpty then return some (s = '-', hours, minutes) else none
      else none
    | [] => none

/-- The time of day after a date. -/
def time? (cs : List Char) :
    Option (List Char × List Char × List Char × List Char × Option (Bool × List Char × List Char)) := do
  let rest ← match cs with
    | c :: rest =>
      if c = 'T' || c = 't' then some rest
      else if isBlank c then some (rest.dropWhile isBlank)
      else none
    | [] => none
  let (hours, rest) ← digits? 1 2 rest
  let (minutes, rest) ← digits? 2 2 (← sign? ':' rest)
  let (seconds, rest) ← digits? 2 2 (← sign? ':' rest)
  let (fraction, rest) := match rest with
    | '.' :: rest => (rest.takeWhile Char.isDigit, rest.dropWhile Char.isDigit)
    | _ => ([], rest)
  return (hours, minutes, seconds, fraction, ← zone? rest)

/-- Takes the text of a date or time apart. -/
def ofList? (cs : List Char) : Option Timestamp := do
  let (year, rest) ← digits? 4 4 cs
  let (month, rest) ← digits? 1 2 (← sign? '-' rest)
  let (day, rest) ← digits? 1 2 (← sign? '-' rest)
  if rest.isEmpty then return ⟨year, month, day, none⟩
  else return ⟨year, month, day, some (← time? rest)⟩

/-- Plain text has the form of a date or time. A date by itself has two digits for month and day. -/
def isPlain (cs : List Char) : Bool :=
  match ofList? cs with
  | none => false
  | some t => t.time.isSome || (t.month.length = 2 && t.day.length = 2)

/-- The number that digits stand for. -/
def number (ds : List Char) : Nat :=
  (Integer.ofDigits? 0 ds).getD 0

/-- The microseconds that the digits of a fraction of a second stand for, of which six count. -/
def micros (ds : List Char) : Nat :=
  let ds := ds.take 6
  number (ds ++ List.replicate (6 - ds.length) '0')

open Calendar in
/-- The date or time that a timestamp stands for, if there is such a day and time of day. -/
def value? (t : Timestamp) : Option Value := do
  let date ← Date.of? (number t.year) (number t.month) (number t.day)
  match t.time with
  | none => return .date date
  | some (hours, minutes, seconds, fraction, zone) =>
    if number hours < 24 ∧ number minutes < 60 ∧ number seconds < 60 then
      let time := ((number hours * 60 + number minutes) * 60 + number seconds) * microsPerSecond +
        micros fraction
      let offset := zone.map fun (negative, hours, minutes) =>
        let distance : Int := (number hours * 60 + number minutes) * 60 * microsPerSecond
        if negative then -distance else distance
      return .datetime (← DateTime.of? date time offset)
    else none

/-- The date or time that text stands for. -/
def read (cs : List Char) : Except Fault Value :=
  match ofList? cs with
  | none => .error .unknownTime
  | some t =>
    match t.value? with
    | some v => .ok v
    | none => .error .unreadable

end Timestamp

end Segmentation.Yaml
