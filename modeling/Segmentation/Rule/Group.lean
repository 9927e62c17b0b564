import Segmentation.Rule.Condition

/-!
# Rule trees

A group combines conditions and sub-groups with AND or OR. Groups are addressed by the indexes that lead to
them from the root. The groups of a tree are listed depth first, each before its sub-groups.
-/

namespace Segmentation

/-- How a group combines the results of its children. -/
inductive Connective where
  | and
  | or
deriving DecidableEq, Repr

namespace Connective

/-- The name of a connective. -/
def name : Connective → String
  | and => "AND"
  | or => "OR"

/-- The connective of a name. -/
def named? (s : String) : Option Connective :=
  if s = "AND" then some and else if s = "OR" then some or else none

/-- The other connective. -/
def opposite : Connective → Connective
  | and => or
  | or => and

end Connective

/-- A node of a rule tree with its conditions and sub-groups. -/
structure Group where
  id : String
  connective : Connective
  conditions : List Condition
  groups : List Group

instance : Inhabited Group := ⟨⟨"", .and, [], []⟩⟩

namespace Group

/-- The group has no children at all. -/
def isVacuous (g : Group) : Bool :=
  g.conditions.isEmpty && g.groups.isEmpty

mutual

/-- The number of groups in a tree. -/
def size : Group → Nat
  | ⟨_, _, _, groups⟩ => 1 + sizes groups

/-- The number of groups in several trees. -/
def sizes : List Group → Nat
  | [] => 0
  | g :: gs => size g + sizes gs

end

mutual

/-- The greatest number of groups that lie in each other in a tree. -/
def depth : Group → Nat
  | ⟨_, _, _, groups⟩ => 1 + depths groups

/-- The greatest depth of several trees. -/
def depths : List Group → Nat
  | [] => 0
  | g :: gs => max (depth g) (depths gs)

end

mutual

/-- The groups of a tree with their paths, depth first; `path` leads to the root of the tree. -/
def preorderFrom (path : List Nat) : Group → List (List Nat × Group)
  | ⟨id, connective, conditions, groups⟩ =>
    (path, ⟨id, connective, conditions, groups⟩) :: preordersFrom path 0 groups

/-- The groups of neighbouring trees, the first of which stands at `index` under `path`. -/
def preordersFrom (path : List Nat) (index : Nat) : List Group → List (List Nat × Group)
  | [] => []
  | g :: gs => preorderFrom (path ++ [index]) g ++ preordersFrom path (index + 1) gs

end

/-- The groups of a tree with their paths, depth first. -/
def preorder (g : Group) : List (List Nat × Group) :=
  preorderFrom [] g

/-- Neighbouring groups with their paths, the first of which stands at `index` under `path`. -/
def numbered (path : List Nat) (index : Nat) : List Group → List (List Nat × Group)
  | [] => []
  | g :: gs => (path ++ [index], g) :: numbered path (index + 1) gs

/-- The sub-groups of a group with their paths. -/
def children (path : List Nat) (g : Group) : List (List Nat × Group) :=
  numbered path 0 g.groups

mutual

/-- Equality of trees, with floating-point numbers compared by value. -/
def same : Group → Group → Bool
  | ⟨id, connective, conditions, groups⟩, g =>
    id = g.id && connective = g.connective && conditions.length = g.conditions.length &&
      (conditions.zip g.conditions).all (fun (a, b) => a.same b) && sames groups g.groups

/-- Equality of lists of trees. -/
def sames : List Group → List Group → Bool
  | [], [] => true
  | a :: as, b :: bs => same a b && sames as bs
  | _, _ => false

end

end Group

end Segmentation
