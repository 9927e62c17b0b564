import Segmentation.Catalogue.Operator
import Segmentation.Number.Binary64

/-!
# Conditions

A condition is a leaf of a rule tree: it compares one contact field with an operand. Operators that are not
known keep their name, so that stored trees still load.
-/

namespace Segmentation

/-- What a condition compares a field with. -/
inductive Operand where
  | null
  | bool (b : Bool)
  | int (n : Int)
  | float (x : Binary64)
  | text (s : String)
  | texts (items : List String)
deriving DecidableEq

namespace Operand

/-- Absent or an empty text. -/
def isBlank : Operand → Bool
  | null => true
  | text s => s = ""
  | _ => false

/-- Blank or an empty list. -/
def isMissing : Operand → Bool
  | texts items => items.isEmpty
  | o => o.isBlank

/-- Equality of operands, with floating-point numbers compared by value. -/
def same : Operand → Operand → Bool
  | float x, float y => x.sameValue y
  | a, b => a = b

end Operand

/-- The operator of a condition: one of the known ones, or a name without a meaning. -/
inductive OperatorName where
  | known (operator : Operator)
  | unknown (name : String)
deriving DecidableEq

namespace OperatorName

/-- The operator of a name, in its present or its older spelling; other names are kept. -/
def ofText (s : String) : OperatorName :=
  match Operator.ofLegacyName? s with
  | some o => known o
  | none =>
    match Operator.named? s with
    | some o => known o
    | none => unknown s

/-- The name as it is written. -/
def text : OperatorName → String
  | known o => o.name
  | unknown name => name

/-- The operator is one of the known ones. -/
def isKnown : OperatorName → Bool
  | known _ => true
  | unknown _ => false

/-- Whether a value is asked for; unknown operators are shown with one. -/
def takesValue : OperatorName → Bool
  | known o => o.takesValue
  | unknown _ => true

/-- Whether an upper bound is asked for. -/
def takesSecondValue : OperatorName → Bool
  | known o => o.takesSecondValue
  | unknown _ => false

/-- Whether the value is a list of texts. -/
def takesList : OperatorName → Bool
  | known o => o.takesList
  | unknown _ => false

/-- Whether the value is a number of days. -/
def countsDays : OperatorName → Bool
  | known o => o.countsDays
  | unknown _ => false

end OperatorName

/-- A test of one contact field; `value2` is the upper bound of a range. -/
structure Condition where
  id : String
  field : String
  operator : OperatorName
  value : Operand
  value2 : Operand
deriving DecidableEq

/-- Equality of conditions, with floating-point numbers compared by value. -/
def Condition.same (a b : Condition) : Bool :=
  a.id = b.id && a.field = b.field && a.operator = b.operator && a.value.same b.value &&
    a.value2.same b.value2

end Segmentation
