import Segmentation.Calendar.Stored
import Segmentation.Schema.Reading

/-!
# Numbers and times in schemas

A whole number may also be given as a flag, as a floating-point number without a fraction, or as text. A
time may be given as a date, as a datetime, as text, or as a number.
-/

namespace Segmentation.Schema

/-- Text without the zeros after a point at its end. -/
def withoutZeroFraction (cs : List Char) : List Char :=
  match cs.dropWhile (· ≠ '.') with
  | _ :: zeros => if zeros.all (· = '0') then cs.takeWhile (· ≠ '.') else cs
  | [] => cs

/-- Reads a whole number from text with white space around it. -/
def integerText? (s : String) : Option Int :=
  let cs := withoutZeroFraction (Text.trimList Text.isSpace s.toList)
  (Integer.withoutUnderscores? false cs).bind Integer.ofSigned?

/-- The flag that a word stands for, in any case. -/
def flagWord? (s : String) : Option Bool :=
  let word := Text.lower s
  if ["1", "on", "t", "true", "y", "yes"].contains word then some true
  else if ["0", "off", "f", "false", "n", "no"].contains word then some false
  else none

/-- A whole number. -/
def integer : Value → Checked Int
  | .bool b => .ok (if b then 1 else 0)
  | .int n => .ok n
  | .float x =>
    if !x.isFinite then .misfit .infiniteInteger
    else if x.isIntegral then .ok x.truncate
    else .misfit .fractionalInteger
  | .decimal d =>
    match d.toBinary64? with
    | some x => if x.isIntegral then .ok x.truncate else .misfit .fractionalInteger
    | none => .misfit .infiniteInteger
  | v =>
    match text v with
    | .error _ => .misfit .notAnInteger
    | .ok s =>
      match integerText? s with
      | some n => .ok n
      | none => .misfit .notIntegerText

/-- A whole number that is at least `least`. -/
def atLeast (least : Nat) (v : Value) : Checked Nat := do
  let n ← integer v
  if least ≤ n then .ok n.toNat else .misfit .tooSmall

/-- A time that a number counts, if it lies within the years 1 to 9999. -/
def counted : Option Calendar.DateTime → Checked Calendar.DateTime
  | some d => .ok d
  | none => .misfit .timeOutOfRange

/-- A time. -/
def time : Value → Checked Calendar.DateTime
  | .datetime d => .ok d
  | .date d => .ok (.midnight d)
  | .int n => counted (Calendar.Stored.ofEpoch? n 0)
  | .float x => counted (Calendar.Stored.ofFloat? x)
  | .decimal d =>
    match d.toBinary64? with
    | some x => counted (Calendar.Stored.ofFloat? x)
    | none => .misfit .notATime
  | v =>
    match text v with
    | .error _ => .misfit .notATime
    | .ok s =>
      match Calendar.Stored.ofText? s with
      | some d => .ok d
      | none => .misfit .notTimeText

end Segmentation.Schema
