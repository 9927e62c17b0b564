import Segmentation.Catalogue.Contact
import Segmentation.Proofs.Editing.Lens
import Segmentation.Proofs.Evaluation.Children
import Segmentation.Proofs.Validation.Agreement

/-!
# The gate before removals

* `Group.canRemoveCondition_iff`, `Group.canRemoveSubGroup_iff`: the gate lets a removal through exactly if the
  group is left with a child of either kind.
* `Group.EachGroup`: what all groups of a tree have in common, and which edits at a path keep it.
* `GroupEdit.apply_hasChild`: an edit that is offered leaves no group of the edited one without a child.
* `Draft.Gated`: the drafts that an editor with the gate arrives at.
* `Draft.Gated.neverVacuous`: in none of them a group is empty, at any depth.
-/

namespace Segmentation

namespace Group

variable {edit : Group → Except EditError Group} {root root' g g' : Group} {path : List Int}

/-! ## What the gate looks at -/

theorem isVacuous_eq_false :
    g.isVacuous = false ↔ 0 < g.conditions.length + g.groups.length := by
  simp only [isVacuous, Bool.and_eq_false_iff, List.isEmpty_eq_false_iff_exists_mem,
    ← List.length_pos_iff_exists_mem]
  omega

/-- The gate for conditions counts both kinds of children: a removal leaves one exactly if it is let through. -/
theorem canRemoveCondition_iff {index : Int} (h : g.removeCondition index = .ok g') :
    g.canRemoveCondition = true ↔ g'.isVacuous = false := by
  obtain ⟨i, c, -, hc, rfl⟩ := removeCondition_eq_ok.1 h
  obtain ⟨hi, -⟩ := List.getElem?_eq_some_iff.1 hc
  rw [isVacuous_eq_false, canRemoveCondition, Bool.or_eq_true, decide_eq_true_eq, decide_eq_true_eq]
  show _ ↔ 0 < (g.conditions.eraseIdx i).length + g.groups.length
  rw [List.length_eraseIdx_of_lt hi]
  omega

/-- So does the gate for sub-groups. -/
theorem canRemoveSubGroup_iff {index : Int} (h : g.removeSubGroup index = .ok g') :
    g.canRemoveSubGroup = true ↔ g'.isVacuous = false := by
  obtain ⟨i, sub, -, hsub, rfl⟩ := removeSubGroup_eq_ok.1 h
  obtain ⟨hi, -⟩ := List.getElem?_eq_some_iff.1 hsub
  rw [isVacuous_eq_false, canRemoveSubGroup, Bool.or_eq_true, decide_eq_true_eq, decide_eq_true_eq]
  show _ ↔ 0 < g.conditions.length + (g.groups.eraseIdx i).length
  rw [List.length_eraseIdx_of_lt hi]
  omega

/-! ## All groups of a tree -/

/-- Every group that a path leads to has the property. -/
def EachGroup (p : Group → Prop) (t : Group) : Prop :=
  ∀ (path : List Int) (g : Group), t.getAt path = .ok g → p g

theorem eachGroup_iff {p : Group → Prop} {t : Group} :
    t.EachGroup p ↔ p t ∧ ∀ sub ∈ t.groups, sub.EachGroup p := by
  constructor
  · intro h
    refine ⟨h [] t rfl, ?_⟩
    intro sub hsub path g hg
    obtain ⟨i, hi⟩ := List.mem_iff_getElem?.1 hsub
    exact h (i :: path) g (getAt_cons.2 ⟨i, sub, rfl, hi, hg⟩)
  · intro ⟨hown, hsubs⟩ path g hg
    cases path with
    | nil =>
      cases hg
      exact hown
    | cons index path =>
      obtain ⟨i, sub, -, hsub, hg⟩ := getAt_cons.1 hg
      exact hsubs sub (List.mem_of_getElem? hsub) path g hg

theorem EachGroup.getAt {p : Group → Prop} (hroot : root.EachGroup p) (hg : root.getAt path = .ok g) :
    g.EachGroup p := by
  intro rest inner hinner
  refine hroot (path ++ rest) inner ?_
  rw [getAt_append, hg]
  exact hinner

/-- What an edit keeps in the group at a path it keeps in the tree, if the groups on the way do not mind another
sub-group in the place of one. -/
theorem EachGroup.updateAt {p : Group → Prop}
    (hset : ∀ g i sub, p g → p { g with groups := g.groups.set i sub })
    (hedit : ∀ g g', edit g = .ok g' → g.EachGroup p → g'.EachGroup p)
    (h : root.updateAt edit path = .ok root') (hroot : root.EachGroup p) : root'.EachGroup p := by
  obtain ⟨g, g', hg, hg'⟩ := exists_getAt_of_updateAt h
  refine updateAt_lift (R := fun g g' => g.EachGroup p → g'.EachGroup p) ?_ hg h hg' (hedit g g' hg') hroot
  intro outer i sub sub' hsub hR houter
  obtain ⟨hown, hsubs⟩ := eachGroup_iff.1 houter
  refine eachGroup_iff.2 ⟨hset outer i sub' hown, ?_⟩
  intro s hs
  rcases List.mem_or_eq_of_mem_set hs with hs | hs
  · exact hsubs s hs
  · rw [hs]
    exact hR (hsubs sub (List.mem_of_getElem? hsub))

/-- A group with at least one child. -/
def HasChild (g : Group) : Prop :=
  g.isVacuous = false

theorem hasChild_set {i : Nat} {sub : Group} (h : g.HasChild) :
    HasChild { g with groups := g.groups.set i sub } := by
  unfold HasChild at h ⊢
  rw [isVacuous_eq_false] at h ⊢
  simpa using h

theorem hasChild_create (catalogue : Catalogue) (connective : Connective) (id conditionId : String) :
    (create catalogue connective id conditionId).EachGroup HasChild :=
  eachGroup_iff.2 ⟨rfl, fun sub hsub => by cases hsub⟩

theorem hasChild_setCondition {i : Nat} {c : Condition} (h : g.HasChild) :
    HasChild { g with conditions := g.conditions.set i c } := by
  unfold HasChild at h ⊢
  rw [isVacuous_eq_false] at h ⊢
  simpa using h

/-- Other conditions in a group leave its sub-groups alone. -/
theorem EachGroup.withConditions {p : Group → Prop} {conditions : List Condition} (hg : g.EachGroup p)
    (hown : p { g with conditions := conditions }) : EachGroup p { g with conditions := conditions } :=
  eachGroup_iff.2 ⟨hown, (eachGroup_iff.1 hg).2⟩

/-- Only an empty group is reported as one. -/
theorem exists_vacuous_of_emptyGroup {catalogue : Catalogue} {t : Group} {issue : Issue}
    {connective : Connective} (hissue : issue ∈ t.validate catalogue)
    (hempty : issue.defect = .emptyGroup connective) :
    ∃ g, t.getAt (issue.path.map Int.ofNat) = .ok g ∧ g.isVacuous = true := by
  have hnew : ∀ id, issue.defect ≠ .duplicateId id := by
    intro id
    rw [hempty]
    exact Defect.noConfusion
  obtain ⟨n, hn, hpath, -, -⟩ := (mem_issuesFrom hnew).1 hissue
  obtain ⟨g, hg, -⟩ := mem_nodes.1 hn
  rw [hpath] at hg
  have hseverity : issue.severity = .warning := by
    rw [Issue.severity, hempty]
    rfl
  exact ⟨g, hg, (reportsEmpty_iff hg).1 ⟨issue, hissue, rfl, hseverity, connective, hempty⟩⟩

end Group

/-! ## Offered edits -/

/-- The gate offers every edit but removals that would take the last child. -/
def GroupEdit.isOffered : GroupEdit → Group → Bool
  | removeCondition _, g => g.canRemoveCondition
  | removeSubGroup _, g => g.canRemoveSubGroup
  | _, _ => true

/-- An edit that is offered leaves no group without a child. -/
theorem GroupEdit.apply_hasChild {catalogue : Catalogue} {e : GroupEdit} {supply supply' : IdSupply}
    {g g' : Group} (hgate : e.isOffered g = true) (h : e.apply catalogue supply g = some (g', supply'))
    (hg : g.EachGroup Group.HasChild) : g'.EachGroup Group.HasChild := by
  obtain ⟨hown, hsubs⟩ := Group.eachGroup_iff.1 hg
  cases e with
  | addCondition =>
    cases h
    refine hg.withConditions ?_
    simp [Group.HasChild, Group.isVacuous]
  | addSubGroup =>
    cases h
    refine Group.eachGroup_iff.2 ⟨by simp [Group.HasChild, Group.isVacuous, Group.addSubGroup], ?_⟩
    intro sub hsub
    rcases List.mem_append.1 hsub with hsub | hsub
    · exact hsubs sub hsub
    · rw [List.mem_singleton.1 hsub]
      exact Group.hasChild_create catalogue _ _ _
  | removeCondition index =>
    obtain ⟨removed, hremove, heq⟩ := Option.map_eq_some_iff.1 h
    cases heq
    have hremove := toOption_eq_some.1 hremove
    have hchild := (Group.canRemoveCondition_iff hremove).1 hgate
    obtain ⟨i, c, -, -, rfl⟩ := Group.removeCondition_eq_ok.1 hremove
    exact hg.withConditions hchild
  | removeSubGroup index =>
    obtain ⟨removed, hremove, heq⟩ := Option.map_eq_some_iff.1 h
    cases heq
    have hremove := toOption_eq_some.1 hremove
    have hchild := (Group.canRemoveSubGroup_iff hremove).1 hgate
    obtain ⟨i, sub, -, -, rfl⟩ := Group.removeSubGroup_eq_ok.1 hremove
    exact Group.eachGroup_iff.2 ⟨hchild, fun sub hsub => hsubs sub (List.mem_of_mem_eraseIdx hsub)⟩
  | toggle =>
    cases h
    exact Group.eachGroup_iff.2 ⟨hown, hsubs⟩
  | editCondition index edit =>
    obtain ⟨edited, hedit, heq⟩ := Option.map_eq_some_iff.1 h
    cases heq
    obtain ⟨i, c, c', -, -, -, rfl⟩ := Group.editCondition_eq_some.1 hedit
    exact hg.withConditions (Group.hasChild_setCondition hown)

/-- A step whose edit is offered by the group at its path leaves no group of the tree without a child. -/
theorem Step.run_hasChild {catalogue : Catalogue} {s : Step} {d d' : Draft} {g : Group}
    (hg : d.tree.getAt s.path = .ok g) (hgate : s.edit.isOffered g = true)
    (h : s.run catalogue d = some d') (hd : d.tree.EachGroup Group.HasChild) :
    d'.tree.EachGroup Group.HasChild := by
  obtain ⟨found, g', supply, hfound, happly, htree, -⟩ := Step.run_eq_some.1 h
  cases hg.symm.trans hfound
  have hsubtree : g.EachGroup Group.HasChild := hd.getAt hg
  refine Group.EachGroup.updateAt (fun _ _ _ => Group.hasChild_set) ?_ htree hd
  intro old new hnew _
  cases hnew
  exact GroupEdit.apply_hasChild hgate happly hsubtree

/-! ## Runs behind the gate -/

namespace Draft

/-- The drafts that an editor with the gate arrives at from a new tree: by edits that the group at the path
offers at that moment, and by any other condition in the place of one. -/
inductive Gated (catalogue : Catalogue) : Draft → Prop where
  | start (supply : IdSupply) : Gated catalogue (Draft.start catalogue supply)
  | edit {d d' : Draft} {s : Step} {g : Group} (hd : Gated catalogue d)
      (hg : d.tree.getAt s.path = .ok g) (hgate : s.edit.isOffered g = true)
      (hs : s.run catalogue d = some d') : Gated catalogue d'
  | replace {d : Draft} {path : List Int} {index : Int} {c : Condition} {tree : Group}
      (hd : Gated catalogue d) (htree : d.tree.updateAt (Group.updateCondition index c) path = .ok tree) :
      Gated catalogue ⟨tree, d.supply⟩

/-- No group of such a draft is without a child. -/
theorem Gated.eachGroup_hasChild {catalogue : Catalogue} {d : Draft} (h : Gated catalogue d) :
    d.tree.EachGroup Group.HasChild := by
  induction h with
  | start supply => exact Group.hasChild_create catalogue _ _ _
  | edit hd hg hgate hs ih => exact Step.run_hasChild hg hgate hs ih
  | replace hd htree ih =>
    refine Group.EachGroup.updateAt (fun _ _ _ => Group.hasChild_set) ?_ htree ih
    intro g g' hedit hg
    obtain ⟨i, c, -, -, rfl⟩ := Group.updateCondition_eq_ok.1 hedit
    exact hg.withConditions (Group.hasChild_setCondition (Group.eachGroup_iff.1 hg).1)

/-- Behind the gate no group ever becomes empty, at any depth: what a group answers for a record is the answer
of one of its children, and validation against any catalogue reports no empty group. -/
theorem Gated.neverVacuous {catalogue : Catalogue} {d : Draft} (h : Gated catalogue d) :
    (∀ (path : List Int) (g : Group), d.tree.getAt path = .ok g → g.isVacuous = false ∧
      ∀ (e : Evaluator) (record : Value),
        ∃ child ∈ g.members, e.answer child record = (e.evaluate g record).1) ∧
    ∀ (checked : Catalogue), ∀ issue ∈ d.tree.validate checked,
      ∀ connective, issue.defect ≠ .emptyGroup connective := by
  have hchild := h.eachGroup_hasChild
  refine ⟨fun path g hg => ⟨hchild path g hg, fun e record => ?_⟩, fun checked issue hissue connective hempty => ?_⟩
  · obtain ⟨child, hmem, hholds⟩ := Group.exists_child_holds_eq (hchild path g hg)
    exact ⟨child, hmem, (e.answer_eq child record).trans hholds⟩
  · obtain ⟨g, hg, hvacuous⟩ := Group.exists_vacuous_of_emptyGroup hissue hempty
    rw [show g.isVacuous = false from hchild _ g hg] at hvacuous
    cases hvacuous

/-- Over contacts: the condition of the root is removed once there is a sub-group beside it. From then on the
sub-group has to stay. -/
theorem Gated.neverVacuous_contact :
    let steps : List Step := [⟨[], .addSubGroup⟩, ⟨[], .removeCondition 0⟩, ⟨[0], .toggle⟩]
    let d := (Draft.start .contact ⟨0⟩).after .contact steps
    Gated .contact d ∧ (d.tree.conditions = [] ∧ d.tree.canRemoveSubGroup = false) ∧
      d.tree.isVacuous = false ∧
      ∀ issue ∈ d.tree.validate .contact, ∀ connective, issue.defect ≠ .emptyGroup connective := by
  intro steps d
  have hstart : Gated .contact (.start .contact ⟨0⟩) := .start ⟨0⟩
  have hadded := Gated.edit (s := ⟨[], .addSubGroup⟩) hstart rfl rfl rfl
  have hremoved := Gated.edit (s := ⟨[], .removeCondition 0⟩) hadded rfl rfl rfl
  have hgated : Gated .contact d := Gated.edit (s := ⟨[0], .toggle⟩) hremoved rfl rfl rfl
  have hnever := neverVacuous hgated
  exact ⟨hgated, ⟨rfl, rfl⟩, (hnever.1 [] d.tree rfl).1, hnever.2 .contact⟩

end Draft

end Segmentation
