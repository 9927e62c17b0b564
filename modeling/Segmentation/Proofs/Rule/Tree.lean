import Segmentation.Rule.Encoding
import Segmentation.Rule.Walk

/-!
# Induction over rule trees

* `Group.induct`: what holds of a group when it holds of all its sub-groups holds of every tree.
* `Group.allConditions`, `Group.EachCondition`: the conditions of a tree at every depth.
* `Group.depth_le_iff`: how deep a tree is, by its sub-groups.
* Mutual functions over lists of sub-groups, as functions of a single one.
-/

namespace Segmentation.Group

theorem sizeOf_groups_lt (g : Group) : sizeOf g.groups < sizeOf g := by
  cases g with
  | mk id connective conditions groups =>
    rw [Group.mk.sizeOf_spec]
    dsimp only
    omega

/-- A tree is reached from its sub-groups. -/
@[elab_as_elim, induction_eliminator]
theorem induct {motive : Group → Prop}
    (node : ∀ g : Group, (∀ sub ∈ g.groups, motive sub) → motive g) (t : Group) : motive t :=
  node t fun sub _ => induct node sub
termination_by sizeOf t
decreasing_by exact Nat.lt_trans (List.sizeOf_lt_of_mem ‹_›) (sizeOf_groups_lt t)

/-! ## Conditions at every depth -/

mutual

/-- The conditions of a tree. -/
def allConditions : Group → List Condition
  | ⟨_, _, conditions, groups⟩ => conditions ++ conditionsOf groups

/-- The conditions of several trees. -/
def conditionsOf : List Group → List Condition
  | [] => []
  | g :: gs => allConditions g ++ conditionsOf gs

end

theorem conditionsOf_eq (gs : List Group) : conditionsOf gs = gs.flatMap allConditions := by
  induction gs with
  | nil => rfl
  | cons g gs ih => rw [conditionsOf, ih, List.flatMap_cons]

theorem allConditions_eq (g : Group) :
    g.allConditions = g.conditions ++ g.groups.flatMap allConditions := by
  cases g with
  | mk id connective conditions groups => rw [allConditions, conditionsOf_eq]

/-- Every condition of the tree has the property. -/
def EachCondition (p : Condition → Prop) (g : Group) : Prop :=
  ∀ c ∈ g.allConditions, p c

theorem eachCondition_iff {p : Condition → Prop} {g : Group} :
    g.EachCondition p ↔ (∀ c ∈ g.conditions, p c) ∧ ∀ sub ∈ g.groups, sub.EachCondition p := by
  unfold EachCondition
  rw [allConditions_eq]
  constructor
  · intro h
    refine ⟨fun c hc => h c (List.mem_append_left _ hc), fun sub hsub c hc => ?_⟩
    exact h c (List.mem_append_right _ (List.mem_flatMap.2 ⟨sub, hsub, hc⟩))
  · rintro ⟨hown, hsubs⟩ c hc
    rcases List.mem_append.1 hc with hc | hc
    · exact hown c hc
    · obtain ⟨sub, hsub, hc⟩ := List.mem_flatMap.1 hc
      exact hsubs sub hsub c hc

/-! ## Depth -/

theorem depths_le_iff {gs : List Group} {n : Nat} : depths gs ≤ n ↔ ∀ g ∈ gs, g.depth ≤ n := by
  induction gs with
  | nil => simp [depths]
  | cons g gs ih => rw [depths, Nat.max_le, ih, List.forall_mem_cons]

/-- A tree is at most so deep if there is room for its root and its sub-groups are less deep. -/
theorem depth_le_iff {g : Group} {n : Nat} : g.depth ≤ n ↔ 0 < n ∧ ∀ sub ∈ g.groups, sub.depth ≤ n - 1 := by
  cases g with
  | mk id connective conditions groups =>
    rw [depth, ← depths_le_iff]
    dsimp only
    omega

/-! ## Lists of sub-groups -/

theorem encodeAll_eq (gs : List Group) : encodeAll gs = gs.map encode := by
  induction gs with
  | nil => rfl
  | cons g gs ih => rw [encodeAll, ih, List.map_cons]

theorem encode_eq (g : Group) : g.encode = .object [("id", .text g.id),
    ("operator", .text g.connective.name), ("conditions", .array (g.conditions.map Condition.encode)),
    ("groups", .array (g.groups.map encode))] := by
  cases g with
  | mk id connective conditions groups => rw [encode, encodeAll_eq]

end Segmentation.Group
