import Segmentation.Rule.Group

/-!
# Walking a rule tree with a stack

The walk takes the group on top of a stack, reports it, and puts its sub-groups there instead, the first
one on top. It ends because the number of groups below the stack shrinks with each step.
-/

namespace Segmentation.Group

/-- The number of groups that a stack stands for. -/
def pending : List (List Nat × Group) → Nat
  | [] => 0
  | (_, g) :: stack => g.size + pending stack

theorem size_eq (g : Group) : g.size = 1 + sizes g.groups := by
  cases g; rfl

theorem pending_numbered (path : List Nat) (index : Nat) (gs : List Group) :
    pending (numbered path index gs) = sizes gs := by
  induction gs generalizing index with
  | nil => rfl
  | cons g gs ih => simp [pending, numbered, sizes, ih (index + 1)]

theorem pending_children (path : List Nat) (g : Group) :
    pending (g.children path) = sizes g.groups :=
  pending_numbered path 0 g.groups

theorem pending_append (s t : List (List Nat × Group)) :
    pending (s ++ t) = pending s + pending t := by
  induction s with
  | nil => simp [pending]
  | cons entry s ih => simp only [List.cons_append, pending, ih]; omega

/-- The groups that a stack still has to report. -/
def walkFrom : List (List Nat × Group) → List (List Nat × Group)
  | [] => []
  | (path, g) :: stack => (path, g) :: walkFrom (g.children path ++ stack)
termination_by stack => pending stack
decreasing_by
  rw [pending_append, pending_children]
  simp only [pending, size_eq]
  omega

/-- The groups of a tree with their paths, in the order of the walk. -/
def walk (g : Group) : List (List Nat × Group) :=
  walkFrom [([], g)]

end Segmentation.Group
