import Segmentation.Calendar.Iso
import Segmentation.Number.Binary64.Reader
import Segmentation.Value.Text

/-!
# Readings of a value

Conditions look at a value in three ways: as a number, as a moment in time, and as the text by which it is
compared. A value without a reading of a kind answers `none`; a reading that must fail for another reason
is a `Failure`.
-/

namespace Segmentation.Value

open Calendar

/-- A number other than the one that is not a number. -/
def comparable (x : Binary64) : Option Binary64 :=
  if x.isNan then none else some x

/-- The value as a floating-point number. Flags are no numbers; text is read after trimming. -/
def number? : Value → Except Failure (Option Binary64)
  | int n =>
    let x := Binary64.ofInt n
    if x.isFinite then .ok (some x) else .error .numberTooLarge
  | float x => .ok (comparable x)
  | decimal d =>
    match d.toBinary64? with
    | some x => .ok (comparable x)
    | none => .error .signallingNan
  | text s => .ok ((Binary64.ofText? (Text.trim s)).bind comparable)
  | _ => .ok none

/-- A trailing letter Z means a clock in UTC and is read as such a distance. -/
def withoutTrailingZ (cs : List Char) : List Char :=
  if cs.getLast? = some 'Z' then cs.dropLast ++ "+00:00".toList else cs

/-- The value as a moment: a datetime, a date at midnight, or ISO text. Naive ones are placed in UTC. -/
def moment? : Value → Option DateTime
  | datetime d => some d.inUtcIfNaive
  | date d => some (DateTime.midnight d).inUtcIfNaive
  | text s =>
    (Iso.dateTimeList? (withoutTrailingZ (Text.trimList Text.isBlank s.toList))).map
      DateTime.inUtcIfNaive
  | _ => none

/-- The text by which values are compared: nothing for an absent value, small letters for flags, and whole
numbers without a fraction. -/
def comparisonText : Value → Except Failure String
  | null => .ok ""
  | bool b => .ok (if b then "true" else "false")
  | float x => if x.isIntegral then Integer.text x.truncate else (float x).toText
  | v => v.toText

/-- The comparison text in small letters. -/
def foldedText (v : Value) : Except Failure String :=
  v.comparisonText.map Text.lower

end Segmentation.Value
