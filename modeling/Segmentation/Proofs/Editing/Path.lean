import Segmentation.Editing.Group
import Segmentation.Proofs.Outcome
import Segmentation.Proofs.Rule.Tree

/-!
# Edits at a path

* `childAt_bind_eq_ok`, `getAt_cons`, `updateAt_cons`: what it takes to follow one index of a path.
* `exists_updateAt`, `updateAt_lift`: an edit at a path is an edit of the group there, and a relation between
  groups that passes from sub-groups to the groups around them passes from that group to the tree.
* `EachCondition.set`, `EachCondition.getAt`, `EachCondition.updateAt`: conditions along a path.
-/

namespace Segmentation

theorem childAt_eq_ok {α : Type} {kind : ChildKind} {children : List α} {index : Int} {i : Nat}
    {child : α} :
    childAt kind children index = .ok (i, child) ↔ index = i ∧ children[i]? = some child := by
  unfold childAt
  by_cases hneg : index < 0
  · rw [if_pos hneg]
    constructor
    · intro h
      cases h
    · rintro ⟨rfl, -⟩
      omega
  · rw [if_neg hneg]
    constructor
    · intro h
      split at h
      · rename_i found hfound
        cases h
        exact ⟨by omega, hfound⟩
      · cases h
    · rintro ⟨rfl, hchild⟩
      simp only [Int.toNat_natCast, hchild]

/-- Where an edit goes on from a child, there is a child. -/
theorem childAt_bind_eq_ok {α β : Type} {kind : ChildKind} {children : List α} {index : Int}
    {next : Nat × α → Except EditError β} {b : β} :
    (childAt kind children index >>= next) = .ok b ↔
      ∃ (i : Nat) (child : α), index = i ∧ children[i]? = some child ∧ next (i, child) = .ok b := by
  rw [bind_eq_ok]
  constructor
  · rintro ⟨⟨i, child⟩, hchild, h⟩
    obtain ⟨hindex, hget⟩ := childAt_eq_ok.1 hchild
    exact ⟨i, child, hindex, hget, h⟩
  · rintro ⟨i, child, hindex, hget, h⟩
    exact ⟨(i, child), childAt_eq_ok.2 ⟨hindex, hget⟩, h⟩

theorem childAt_return_eq_ok {α β : Type} {kind : ChildKind} {children : List α} {index : Int}
    {result : Nat × α → β} {b : β} :
    (childAt kind children index >>= fun found => pure (result found)) = .ok b ↔
      ∃ (i : Nat) (child : α), index = i ∧ children[i]? = some child ∧ b = result (i, child) := by
  rw [childAt_bind_eq_ok]
  constructor
  · rintro ⟨i, child, hindex, hget, h⟩
    exact ⟨i, child, hindex, hget, (Except.ok.inj h).symm⟩
  · rintro ⟨i, child, hindex, hget, rfl⟩
    exact ⟨i, child, hindex, hget, rfl⟩

namespace Group

variable {edit : Group → Except EditError Group} {root root' g g' : Group} {path : List Int}

/-! ## Following a path -/

theorem getAt_cons {index : Int} :
    root.getAt (index :: path) = .ok g ↔
      ∃ (i : Nat) (sub : Group), index = i ∧ root.groups[i]? = some sub ∧ sub.getAt path = .ok g := by
  rw [getAt]
  exact childAt_bind_eq_ok

theorem updateAt_cons {index : Int} :
    root.updateAt edit (index :: path) = .ok root' ↔
      ∃ (i : Nat) (sub sub' : Group), index = i ∧ root.groups[i]? = some sub ∧
        sub.updateAt edit path = .ok sub' ∧ root' = { root with groups := root.groups.set i sub' } := by
  rw [updateAt]
  refine childAt_bind_eq_ok.trans ?_
  constructor
  · rintro ⟨i, sub, hindex, hsub, h⟩
    obtain ⟨sub', hedited, h⟩ := bind_eq_ok.1 h
    exact ⟨i, sub, sub', hindex, hsub, hedited, (Except.ok.inj h).symm⟩
  · rintro ⟨i, sub, sub', hindex, hsub, hedited, rfl⟩
    exact ⟨i, sub, hindex, hsub, bind_eq_ok.2 ⟨sub', hedited, rfl⟩⟩

/-! ## What an edit at a path does -/

/-- An edit at a path is one edit of the group there. -/
theorem exists_getAt_of_updateAt (h : root.updateAt edit path = .ok root') :
    ∃ g g', root.getAt path = .ok g ∧ edit g = .ok g' := by
  induction path generalizing root root' with
  | nil => exact ⟨root, root', rfl, h⟩
  | cons index path ih =>
    obtain ⟨i, sub, sub', hindex, hsub, hedited, -⟩ := updateAt_cons.1 h
    obtain ⟨g, g', hg, hedit⟩ := ih hedited
    exact ⟨g, g', getAt_cons.2 ⟨i, sub, hindex, hsub, hg⟩, hedit⟩

/-- At the path of a group, an edit of the tree succeeds if the edit of the group does. -/
theorem exists_updateAt (hg : root.getAt path = .ok g) (hedit : edit g = .ok g') :
    ∃ root', root.updateAt edit path = .ok root' := by
  induction path generalizing root with
  | nil =>
    cases hg
    exact ⟨g', hedit⟩
  | cons index path ih =>
    obtain ⟨i, sub, hindex, hsub, hg⟩ := getAt_cons.1 hg
    obtain ⟨sub', hedited⟩ := ih hg
    exact ⟨_, updateAt_cons.2 ⟨i, sub, sub', hindex, hsub, hedited, rfl⟩⟩

/-- What passes from a sub-group to the group around it passes from the edited group to the tree. -/
theorem updateAt_lift {R : Group → Group → Prop}
    (hlift : ∀ (outer : Group) (i : Nat) (sub sub' : Group), outer.groups[i]? = some sub → R sub sub' →
      R outer { outer with groups := outer.groups.set i sub' })
    (hg : root.getAt path = .ok g) (h : root.updateAt edit path = .ok root') (hedit : edit g = .ok g')
    (hR : R g g') : R root root' := by
  induction path generalizing root root' with
  | nil =>
    cases hg
    cases hedit.symm.trans h
    exact hR
  | cons index path ih =>
    obtain ⟨i, sub, hindex, hsub, hg⟩ := getAt_cons.1 hg
    obtain ⟨i', sub₁, sub', hindex', hsub', hedited, rfl⟩ := updateAt_cons.1 h
    obtain rfl := Int.ofNat_inj.1 (hindex.symm.trans hindex')
    cases hsub.symm.trans hsub'
    exact hlift root i sub sub' hsub (ih hg hedited)

/-! ## Conditions along a path -/

theorem EachCondition.set {p : Condition → Prop} {i : Nat} {sub' : Group} (hg : g.EachCondition p)
    (hsub' : sub'.EachCondition p) :
    EachCondition p { g with groups := g.groups.set i sub' } := by
  rw [eachCondition_iff] at hg ⊢
  refine ⟨hg.1, fun sub hsub => ?_⟩
  rcases List.mem_or_eq_of_mem_set hsub with hsub | rfl
  · exact hg.2 sub hsub
  · exact hsub'

theorem EachCondition.getAt {p : Condition → Prop} (hroot : root.EachCondition p)
    (h : root.getAt path = .ok g) : g.EachCondition p := by
  induction path generalizing root with
  | nil =>
    cases h
    exact hroot
  | cons index path ih =>
    obtain ⟨i, sub, -, hsub, h⟩ := getAt_cons.1 h
    exact ih ((eachCondition_iff.1 hroot).2 sub (List.mem_of_getElem? hsub)) h

/-- An edit that keeps a property of all conditions of a group keeps it in the tree. -/
theorem EachCondition.updateAt {p : Condition → Prop}
    (hedit : ∀ g g', edit g = .ok g' → g.EachCondition p → g'.EachCondition p)
    (h : root.updateAt edit path = .ok root') (hroot : root.EachCondition p) :
    root'.EachCondition p := by
  obtain ⟨g, g', hg, hg'⟩ := exists_getAt_of_updateAt h
  refine updateAt_lift (R := fun g g' => g.EachCondition p → g'.EachCondition p) ?_ hg h hg'
    (hedit g g' hg') hroot
  intro outer i sub sub' hsub hR houter
  exact houter.set (hR ((eachCondition_iff.1 houter).2 sub (List.mem_of_getElem? hsub)))

end Group

end Segmentation
