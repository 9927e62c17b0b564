import Segmentation.Catalogue
import Segmentation.Identifier
import Segmentation.Rule.Group

/-!
# Edits of a group

Every edit takes a group and gives a new one, and only new nodes get new identifiers, which the caller
draws. Edits that name a child by its index fail if there is none. A path is a list of sub-group indexes that
leads from the root to a group; an edit at a path puts the edited group in the place of the old one.
-/

namespace Segmentation

/-- The kinds of children of a group. -/
inductive ChildKind where
  | condition
  | group
deriving DecidableEq

/-- The name of a kind of children. -/
def ChildKind.name : ChildKind → String
  | condition => "condition"
  | group => "group"

/-- Why an edit is refused. -/
inductive EditError where
  /-- There is no child of the kind at the index; there are `size` of them. -/
  | noChild (kind : ChildKind) (index : Int) (size : Nat)
  /-- The field does not allow the operator. -/
  | notValid (operator field : String)
deriving DecidableEq

/-- The refusal in words. -/
def EditError.message : EditError → String
  | noChild kind index size =>
    kind.name ++ " index " ++ toString index ++ " out of range (size " ++ toString size ++ ")"
  | notValid operator field => "Operator '" ++ operator ++ "' is not valid for field '" ++ field ++ "'"

/-- The child at an index, and the index as a natural number. -/
def childAt {α : Type} (kind : ChildKind) (children : List α) (index : Int) :
    Except EditError (Nat × α) :=
  if index < 0 then .error (.noChild kind index children.length)
  else
    match children[index.toNat]? with
    | some child => .ok (index.toNat, child)
    | none => .error (.noChild kind index children.length)

namespace Condition

/-- A new condition on the first field with its default operator. -/
def create (catalogue : Catalogue) (id : String) : Condition where
  id := id
  field := catalogue.firstField.key
  operator := .known (catalogue.defaultOperator catalogue.firstField.key)
  value := .text ""
  value2 := .null

end Condition

namespace Group

/-- A new group with one new condition. -/
def create (catalogue : Catalogue) (connective : Connective) (id conditionId : String) : Group where
  id := id
  connective := connective
  conditions := [Condition.create catalogue conditionId]
  groups := []

/-- The tree with which the definition of a segment starts. -/
def initial (catalogue : Catalogue) (id conditionId : String) : Group :=
  create catalogue .and id conditionId

/-- Appends a new condition. -/
def addCondition (catalogue : Catalogue) (id : String) (g : Group) : Group :=
  { g with conditions := g.conditions ++ [Condition.create catalogue id] }

/-- Appends a new sub-group with the opposite connective. -/
def addSubGroup (catalogue : Catalogue) (id conditionId : String) (g : Group) : Group :=
  { g with groups := g.groups ++ [create catalogue g.connective.opposite id conditionId] }

/-- Removes the condition at an index. -/
def removeCondition (index : Int) (g : Group) : Except EditError Group := do
  let (i, _) ← childAt .condition g.conditions index
  return { g with conditions := g.conditions.eraseIdx i }

/-- Removes the sub-group at an index. -/
def removeSubGroup (index : Int) (g : Group) : Except EditError Group := do
  let (i, _) ← childAt .group g.groups index
  return { g with groups := g.groups.eraseIdx i }

/-- Removing a condition leaves the group with a child. -/
def canRemoveCondition (g : Group) : Bool :=
  1 < g.conditions.length || 0 < g.groups.length

/-- Removing a sub-group leaves the group with a child. -/
def canRemoveSubGroup (g : Group) : Bool :=
  1 < g.groups.length || 0 < g.conditions.length

/-- Puts a condition in the place of the one at an index. -/
def updateCondition (index : Int) (c : Condition) (g : Group) : Except EditError Group := do
  let (i, _) ← childAt .condition g.conditions index
  return { g with conditions := g.conditions.set i c }

/-- Puts a sub-group in the place of the one at an index. -/
def updateSubGroup (index : Int) (sub : Group) (g : Group) : Except EditError Group := do
  let (i, _) ← childAt .group g.groups index
  return { g with groups := g.groups.set i sub }

/-- Swaps AND and OR in this group only. -/
def toggle (g : Group) : Group :=
  { g with connective := g.connective.opposite }

/-! ## Edits at a path -/

/-- The group at a path. -/
def getAt (root : Group) : List Int → Except EditError Group
  | [] => .ok root
  | index :: path => do
    let (_, sub) ← childAt .group root.groups index
    sub.getAt path

/-- The tree with the group at a path edited. The path is followed before the edit is tried. -/
def updateAt (edit : Group → Except EditError Group) (root : Group) : List Int → Except EditError Group
  | [] => edit root
  | index :: path => do
    let (i, sub) ← childAt .group root.groups index
    let edited ← updateAt edit sub path
    return { root with groups := root.groups.set i edited }

end Group

end Segmentation
