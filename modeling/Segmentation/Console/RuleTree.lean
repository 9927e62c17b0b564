import Segmentation.Catalogue
import Segmentation.Console.Printed
import Segmentation.Evaluation.Comparison
import Segmentation.Rule.Group
import Segmentation.Text.Markup

/-!
# Showing rule trees

Each condition takes one line, each sub-group one branch, and a group without children says that it is
empty. Labels and operands are escaped, so that they cannot style the line.
-/

namespace Segmentation

open Text.Markup

namespace Operand

/-- The operand as it is shown as an upper bound. -/
def shownPlain (o : Operand) : Except Failure String :=
  o.toValue.toText

/-- The operand as it is shown as a value: a list shows its members only. -/
def shown : Operand → Except Failure String
  | texts items => .ok (Value.commaSeparated items)
  | o => o.shownPlain

end Operand

namespace Condition

/-- The field as it is shown: by its label, or by its key if the catalogue does not know it. -/
def fieldLabel (catalogue : Catalogue) (c : Condition) : String :=
  match catalogue.field? c.field with
  | some f => f.label
  | none => c.field ++ " (unknown field)"

/-- The condition on one line. -/
def describe (catalogue : Catalogue) (c : Condition) : Except Failure String := do
  let subject := escape (c.fieldLabel catalogue) ++ " " ++ c.operator.text
  if !c.operator.takesValue then return subject
  let line := subject ++ " " ++ styled "cyan" (escape (← c.value.shown))
  if c.operator.takesSecondValue && !c.value2.isBlank then
    return line ++ " and " ++ styled "cyan" (escape (← c.value2.shownPlain))
  return line

end Condition

namespace Group

open Console

mutual

/-- The branches below a group: its conditions, then its sub-groups, or a mark if it has neither. -/
def branches (catalogue : Catalogue) : Group → Except Failure (List Branch)
  | ⟨_, _, conditions, groups⟩ => do
    let lines ← conditions.mapM (Condition.describe catalogue)
    let subtrees ← subBranches catalogue groups
    let all := lines.map (Branch.node · []) ++ subtrees
    return if all.isEmpty then [.node "[dim](empty)[/dim]" []] else all

/-- The branches of sub-groups, each under its connective. -/
def subBranches (catalogue : Catalogue) : List Group → Except Failure (List Branch)
  | [] => .ok []
  | g :: gs => do
    let inner ← branches catalogue g
    return .node (styled "bold" g.connective.name) inner :: (← subBranches catalogue gs)

end

/-- The tree of a group under a label for its root. -/
def shownUnder (catalogue : Catalogue) (label : String) (g : Group) : Except Failure Branch := do
  return .node label (← g.branches catalogue)

end Group

end Segmentation
