import Segmentation.Evaluation.Clock
import Segmentation.Evaluation.Comparison
import Segmentation.Rule.Group
import Segmentation.Value.Lookup

/-!
# Audiences

A rule tree selects the records for which it holds. Evaluation never fails: a condition whose operator is
unknown, not allowed for its field, or unable to read the values does not hold. Selecting from a list takes
one reading of the clock for all records.
-/

namespace Segmentation

open Calendar

/-- What came of a condition on a record. -/
inductive Verdict where
  /-- The operator has no meaning. -/
  | unknownOperator (name : String)
  /-- The type of the field does not allow the operator. -/
  | notAllowed (operator : Operator) (type : FieldType)
  /-- A value could not be read. -/
  | failed (cause : Failure)
  /-- The operator was applied. -/
  | decided (answer : Bool)
deriving DecidableEq

namespace Verdict

/-- The condition holds. -/
def holds : Verdict → Bool
  | decided answer => answer
  | _ => false

end Verdict

namespace Condition

/-- The operator of a condition as the catalogue names it for the field, or the verdict that turns the
condition down on its operator alone. -/
def admitted (catalogue : Catalogue) (c : Condition) : Except Verdict Operator :=
  match c.operator with
  | .unknown name => .error (.unknownOperator name)
  | .known operator =>
    match catalogue.canonicalOperator? c.field operator with
    | none => .error (.notAllowed operator (catalogue.fieldType c.field))
    | some canonical => .ok canonical

/-- The verdict on a condition for a record at a reference time. -/
def verdict (catalogue : Catalogue) (now : DateTime) (contact : Value) (c : Condition) : Verdict :=
  match c.admitted catalogue with
  | .error refusal => refusal
  | .ok operator =>
    match Comparison.apply operator (catalogue.fieldType c.field) (contact.resolve c.field) c.value
      c.value2 now with
    | .ok answer => .decided answer
    | .error cause => .failed cause

/-- The condition holds for a record at a reference time. -/
def holds (catalogue : Catalogue) (now : DateTime) (contact : Value) (c : Condition) : Bool :=
  (c.verdict catalogue now contact).holds

/-- What is noted about a condition that was not decided. -/
def note? (c : Condition) : Verdict → Option String
  | .unknownOperator name =>
    some ("Unknown operator '" ++ name ++ "' in condition " ++ c.id)
  | .notAllowed operator type =>
    some ("Operator '" ++ operator.name ++ "' not valid for " ++ type.name ++ " field '" ++ c.field ++
      "'")
  | .failed _ => some ("Condition " ++ c.id ++ " on '" ++ c.field ++ "' did not evaluate")
  | .decided _ => none

end Condition

namespace Group

mutual

/-- The group holds for a record at a reference time: all of its children do, or one of them does. -/
def holds (catalogue : Catalogue) (now : DateTime) (contact : Value) : Group → Bool
  | ⟨_, .and, conditions, groups⟩ =>
    conditions.all (·.holds catalogue now contact) && allHold catalogue now contact groups
  | ⟨_, .or, conditions, groups⟩ =>
    conditions.any (·.holds catalogue now contact) || anyHolds catalogue now contact groups

/-- All groups hold. -/
def allHold (catalogue : Catalogue) (now : DateTime) (contact : Value) : List Group → Bool
  | [] => true
  | g :: gs => holds catalogue now contact g && allHold catalogue now contact gs

/-- Some group holds. -/
def anyHolds (catalogue : Catalogue) (now : DateTime) (contact : Value) : List Group → Bool
  | [] => false
  | g :: gs => holds catalogue now contact g || anyHolds catalogue now contact gs

end

/-- The records that the group holds for, in their order. -/
def audience (catalogue : Catalogue) (now : DateTime) (g : Group) (contacts : List Value) :
    List Value :=
  contacts.filter fun contact => g.holds catalogue now contact

end Group

/-- An evaluator: a catalogue, a clock, and the time of the system for a clock without an answer. -/
structure Evaluator where
  catalogue : Catalogue
  clock : Clock
  systemTime : DateTime

namespace Evaluator

/-- The reference time, which takes one reading of the clock. -/
def now (e : Evaluator) : DateTime × Evaluator :=
  let (time, clock) := e.clock.read e.systemTime
  (time, { e with clock := clock })

/-- Whether a condition holds for a record, and the verdict on it. -/
def judge (e : Evaluator) (c : Condition) (contact : Value) : Verdict × Evaluator :=
  let (time, e) := e.now
  (c.verdict e.catalogue time contact, e)

/-- Whether a group holds for a record. -/
def evaluate (e : Evaluator) (g : Group) (contact : Value) : Bool × Evaluator :=
  let (time, e) := e.now
  (g.holds e.catalogue time contact, e)

/-- The records that a group holds for. -/
def filter (e : Evaluator) (g : Group) (contacts : List Value) : List Value × Evaluator :=
  let (time, e) := e.now
  (g.audience e.catalogue time contacts, e)

/-- The number of records that a group holds for. -/
def count (e : Evaluator) (g : Group) (contacts : List Value) : Nat × Evaluator :=
  let (time, e) := e.now
  (contacts.countP fun contact => g.holds e.catalogue time contact, e)

end Evaluator

end Segmentation
