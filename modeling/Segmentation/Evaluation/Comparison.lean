import Segmentation.Calendar.Span
import Segmentation.Catalogue
import Segmentation.Rule.Condition
import Segmentation.Text.Case
import Segmentation.Value.Reading

/-!
# Applying operators

An operator is applied to the value that a record stores in a field, to the operand of the condition, and
to a reference time. An absent value is replaced by the blank value of the field's type, except where the
question is whether anything is stored. Only values that cannot be read make an operator fail.
-/

namespace Segmentation

open Calendar

/-- The operand as a value. -/
def Operand.toValue : Operand → Value
  | null => .null
  | bool b => .bool b
  | int n => .int n
  | float x => .float x
  | text s => .text s
  | texts items => .collection .list (items.map .text)

namespace Comparison

/-- The value that stands for an absent one of a type. -/
def blank : FieldType → Value
  | .number => .int 0
  | .array => .collection .list []
  | .boolean => .bool false
  | .string | .select | .date => .text ""

/-- The stored value, or the blank value of the type. -/
def stored (type : FieldType) (raw : Value) : Value :=
  match raw with
  | .null => blank type
  | v => v

/-- The stored value is the flag, or the name of the flag in any case. -/
def isFlag (flag : Bool) (raw : Value) : Bool :=
  match raw with
  | .bool b => b == flag
  | .text s => Text.lower s == (if flag then "true" else "false")
  | .null => !flag
  | _ => false

/-- A place on the scale on which values of a type are ordered: a moment for dates, else a number. -/
inductive Rank where
  | number (x : Binary64)
  | moment (d : DateTime)

namespace Rank

/-- The place as an integer: the position on the number line, or the instant. Only places of one scale are
ever compared. -/
def position : Rank → Int
  | number x => x.position
  | moment d => d.instant

end Rank

/-- The rank of a value on the scale of a type, if it has one. -/
def rank (type : FieldType) (v : Value) : Except Failure (Option Rank) :=
  match type with
  | .date => .ok (v.moment?.map .moment)
  | _ => do return (← v.number?).map .number

/-- Two values are equal: as numbers if the field holds numbers and both are ones, else as texts. -/
def equal (type : FieldType) (actual expected : Value) : Except Failure Bool := do
  let numbers ← match type with
    | .number => do
      let left ← actual.number?
      let right ← expected.number?
      pure (match left, right with
        | some x, some y => some (x, y)
        | _, _ => none)
    | _ => pure none
  match numbers with
  | some (x, y) => return x.position = y.position
  | none => return (← actual.comparisonText) = (← expected.comparisonText)

/-- A member of a collection equals the expected value, or it occurs within a text; case is ignored. -/
def holds (type : FieldType) (actual expected : Value) : Except Failure Bool := do
  let needle ← expected.foldedText
  match type, actual with
  | .array, _ | _, .collection _ _ => return (← anyFolded needle actual.members)
  | _, _ => return Text.contains (← actual.foldedText) needle
where
  /-- A value of the list has the given folded text; values behind the first such one are not read. -/
  anyFolded (needle : String) : List Value → Except Failure Bool
    | [] => .ok false
    | v :: vs => do if (← v.foldedText) = needle then return true else anyFolded needle vs

/-- All expected members are among those that are there; case is ignored. Expected members behind the first
one that is missing are not read. -/
def holdsAll (actual expected : Value) : Except Failure Bool := do
  let present ← actual.members.mapM Value.foldedText
  allAmong present expected.members
where
  /-- Every value of the list has a folded text among the given ones. -/
  allAmong (present : List String) : List Value → Except Failure Bool
    | [] => .ok true
    | v :: vs => do if (← v.foldedText) ∈ present then allAmong present vs else return false

/-- The text of the value is one of the expected ones. -/
def isAmong (actual expected : Value) : Except Failure Bool := do
  let text ← actual.comparisonText
  return text ∈ (← expected.members.mapM Value.comparisonText)

/-- Both values have a rank, and the ranks stand in the given relation. -/
def ordered (type : FieldType) (relation : Int → Int → Bool) (actual expected : Value) :
    Except Failure Bool := do
  let left ← rank type actual
  let right ← rank type expected
  return match left, right with
    | some a, some b => relation a.position b.position
    | _, _ => false

/-- The value lies between two bounds, both included; a blank upper bound is none. -/
def within (type : FieldType) (actual low : Value) (high : Operand) : Except Failure Bool := do
  let value ← rank type actual
  let lower ← rank type low
  match value, lower with
  | some v, some l =>
    if high.isBlank then return l.position ≤ v.position
    else
      match ← rank type high.toValue with
      | some h => return l.position ≤ v.position && v.position ≤ h.position
      | none => return false
  | _, _ => return false

/-- The number of the UTC day of a moment, which must be a day of the years 1 to 9999. -/
def utcDay (d : DateTime) : Except Failure Int :=
  -- A clock in UTC shows a day that exists.
  if 1 ≤ d.utcDayNumber ∧ d.utcDayNumber ≤ lastDayNumber then .ok d.utcDayNumber
  else .error .dayOutOfRange

/-- Two moments fall on one day in UTC. -/
def sameDay (actual expected : Value) : Except Failure Bool :=
  match actual.moment?, expected.moment? with
  | some a, some b => do
    let day ← utcDay a
    return day = (← utcDay b)
  | _, _ => .ok false

/-- The moment is not earlier than a number of days before the reference time, or, for `recent = false`, it
is earlier. -/
def inLastDays (recent : Bool) (now : DateTime) (actual expected : Value) : Except Failure Bool := do
  let days ← expected.number?
  match actual.moment?, days with
  | some moment, some days =>
    match microsOfDays? days with
    | none => .error .spanTooLong
    | some micros =>
      match now.instantBefore? micros with
      | none => .error .dayOutOfRange
      | some cutoff => return if recent then cutoff ≤ moment.instant else moment.instant < cutoff
  | _, _ => return false

/-- Applies an operator. -/
def apply (operator : Operator) (type : FieldType) (raw : Value) (expected upper : Operand)
    (now : DateTime) : Except Failure Bool :=
  let actual := stored type raw
  let value := expected.toValue
  match operator with
  | .isEmpty => .ok raw.isEmpty
  | .isNotEmpty => .ok !raw.isEmpty
  | .isTrue => .ok (isFlag true raw)
  | .isFalse => .ok (isFlag false raw)
  | .equals => equal type actual value
  | .notEquals => do return !(← equal type actual value)
  | .contains => holds type actual value
  | .notContains => do return !(← holds type actual value)
  | .startsWith => do return Text.startsWith (← actual.foldedText) (← value.foldedText)
  | .endsWith => do return Text.endsWith (← actual.foldedText) (← value.foldedText)
  | .containsAll => holdsAll actual value
  | .isIn => isAmong actual value
  | .notIn => do return !(← isAmong actual value)
  | .greaterThan | .after => ordered type (fun a b => b < a) actual value
  | .lessThan | .before => ordered type (fun a b => a < b) actual value
  | .greaterOrEqual => ordered type (fun a b => b ≤ a) actual value
  | .lessOrEqual => ordered type (fun a b => a ≤ b) actual value
  | .between => within type actual value upper
  | .on => sameDay actual value
  | .inLastDays => inLastDays true now actual value
  | .notInLastDays => inLastDays false now actual value

end Comparison

end Segmentation
