import Segmentation.Editing.Group
import Segmentation.Value.Reading

/-!
# Edits of a condition

Editor input of any kind is turned into the operand that the operator and the field of the condition ask
for: a list of texts, a number, or text. Input that stands for no number becomes blank.
-/

namespace Segmentation

namespace Operand

/-- The operand for a field of numbers. Text is read as a number, a whole one as an integer. -/
def ofNumberInput (raw : Value) : Except Failure Operand :=
  match raw with
  | .bool _ | .null => .ok (text "")
  | .int n => .ok (int n)
  | .float x => .ok (float x)
  | v => do
    match Binary64.ofText? (Text.trim (← v.toText)) with
    | none => return text ""
    | some x => return if x.isIntegral then int x.truncate else float x

/-- The texts between the commas, without blanks around them and without empty ones. -/
def commaParts (s : String) : List String :=
  ((Text.split s ',').map Text.trim).filter (· ≠ "")

/-- The operand for an operator with a list. -/
def ofListInput (raw : Value) : Except Failure (List String) :=
  match raw with
  | .null => .ok []
  | .text s => .ok (commaParts s)
  | .collection _ items => items.mapM Value.toText
  | v => return [← v.toText]

end Operand

namespace Condition

/-- The operand that the condition asks for, from editor input. -/
def coerce (catalogue : Catalogue) (raw : Value) (c : Condition) : Except Failure Operand :=
  if c.operator.takesList then (Operand.ofListInput raw).map .texts
  else if catalogue.fieldType c.field = .number ∨ c.operator.countsDays then Operand.ofNumberInput raw
  else match raw with
    | .null => .ok (.text "")
    | v => v.toText.map .text

/-- Points the condition at another field and resets all else but its identifier. -/
def changeField (catalogue : Catalogue) (field : String) (c : Condition) : Condition where
  id := c.id
  field := field
  operator := .known (catalogue.defaultOperator field)
  value := .text ""
  value2 := .null

/-- Switches to the operator of a name, as the field's type names it, and clears the operands. -/
def changeOperator (catalogue : Catalogue) (name : String) (c : Condition) :
    Except EditError Condition :=
  match (Operator.named? name).bind (catalogue.canonicalOperator? c.field) with
  | some operator => .ok { c with operator := .known operator, value := .text "", value2 := .null }
  | none => .error (.notValid name c.field)

/-- Sets the operand from editor input. -/
def setValue (catalogue : Catalogue) (raw : Value) (c : Condition) : Except Failure Condition := do
  return { c with value := ← c.coerce catalogue raw }

/-- Sets the upper bound from editor input; blank input clears it. -/
def setValue2 (catalogue : Catalogue) (raw : Value) (c : Condition) : Except Failure Condition := do
  let upper ← c.coerce catalogue raw
  return { c with value2 := if upper = .text "" then .null else upper }

/-- The choices that a multi-select condition lists. -/
def selected (c : Condition) : List String :=
  match c.value with
  | .texts items => items
  | _ => []

/-- Adds a choice to a multi-select condition, or removes it if it is there. -/
def toggleOption (option : String) (c : Condition) : Condition :=
  let selected := c.selected
  { c with value := .texts (
      if option ∈ selected then selected.filter (· ≠ option) else selected ++ [option]) }

end Condition

end Segmentation
