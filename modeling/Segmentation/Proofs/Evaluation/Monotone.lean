import Mathlib.Data.List.Basic
import Segmentation.Catalogue.Contact
import Segmentation.Evaluation.Audience
import Segmentation.Proofs.Editing.Step

/-!
# Edits move the audience in one direction

* `Group.holds_and`, `Group.holds_or`: when a group holds, in terms of its children.
* `Group.holds_set`: a group passes on what one of its sub-groups gains.
* `Group.Extends`: a group with one more child, which holds less often under AND and more often under OR.
* `Evaluator.filter_updateAt`: what an edit of a group does to the audience of the whole tree.
-/

namespace Segmentation

open Calendar

namespace Group

variable {catalogue : Catalogue} {now : DateTime} {contact : Value}

/-! ## Groups and their children -/

section Children

variable {id : String} {conditions : List Condition} {groups : List Group}

theorem allHold_iff :
    allHold catalogue now contact groups = true ↔
      ∀ sub ∈ groups, sub.holds catalogue now contact = true := by
  induction groups with
  | nil => simp [allHold]
  | cons g gs ih => rw [allHold, Bool.and_eq_true, ih, List.forall_mem_cons]

theorem anyHolds_iff :
    anyHolds catalogue now contact groups = true ↔
      ∃ sub ∈ groups, sub.holds catalogue now contact = true := by
  induction groups with
  | nil => simp [anyHolds]
  | cons g gs ih => simp [anyHolds, ih]

theorem holds_and :
    holds catalogue now contact ⟨id, .and, conditions, groups⟩ = true ↔
      (∀ c ∈ conditions, c.holds catalogue now contact = true) ∧
        ∀ sub ∈ groups, sub.holds catalogue now contact = true := by
  rw [holds, Bool.and_eq_true, List.all_eq_true, allHold_iff]

theorem holds_or :
    holds catalogue now contact ⟨id, .or, conditions, groups⟩ = true ↔
      (∃ c ∈ conditions, c.holds catalogue now contact = true) ∨
        ∃ sub ∈ groups, sub.holds catalogue now contact = true := by
  rw [holds, Bool.or_eq_true, List.any_eq_true, anyHolds_iff]

end Children

/-- A group passes on what one of its sub-groups gains. -/
theorem holds_set {g sub sub' : Group} {i : Nat} (hsub : g.groups[i]? = some sub)
    (himp : sub.holds catalogue now contact = true → sub'.holds catalogue now contact = true)
    (hg : g.holds catalogue now contact = true) :
    holds catalogue now contact { g with groups := g.groups.set i sub' } = true := by
  obtain ⟨id, connective, conditions, groups⟩ := g
  dsimp only at hsub ⊢
  cases connective with
  | and =>
    rw [holds_and] at hg ⊢
    refine ⟨hg.1, fun s hs => ?_⟩
    rcases List.mem_or_eq_of_mem_set hs with hs | rfl
    · exact hg.2 s hs
    · exact himp (hg.2 sub (List.mem_of_getElem? hsub))
  | or =>
    rw [holds_or] at hg ⊢
    refine hg.imp_right ?_
    rintro ⟨s, hs, hholds⟩
    obtain ⟨hi, -⟩ := List.getElem?_eq_some_iff.1 hsub
    obtain ⟨j, hj⟩ := List.mem_iff_getElem?.1 hs
    by_cases hij : i = j
    · subst hij
      cases hj.symm.trans hsub
      exact ⟨sub', List.mem_of_getElem? (List.getElem?_set_self hi), himp hholds⟩
    · exact ⟨s, List.mem_of_getElem? ((List.getElem?_set_ne hij).trans hj), hholds⟩

/-- A group passes on what one of its sub-groups loses. -/
theorem holds_of_set {g sub sub' : Group} {i : Nat} (hsub : g.groups[i]? = some sub)
    (himp : sub'.holds catalogue now contact = true → sub.holds catalogue now contact = true)
    (hg : holds catalogue now contact { g with groups := g.groups.set i sub' } = true) :
    g.holds catalogue now contact = true := by
  obtain ⟨id, connective, conditions, groups⟩ := g
  obtain ⟨hi, hget⟩ := List.getElem?_eq_some_iff.1 hsub
  have hback := holds_set (i := i) (List.getElem?_set_self hi) himp hg
  dsimp only at hback hget
  rwa [List.set_set, ← hget, List.set_getElem_self] at hback

/-! ## One child more, another connective -/

/-- The groups have one connective, and every child of the first one is a child of the second one. -/
structure Extends (g g' : Group) : Prop where
  connective : g'.connective = g.connective
  conditions : g.conditions ⊆ g'.conditions
  groups : g.groups ⊆ g'.groups

theorem extends_appendCondition (g : Group) (c : Condition) :
    g.Extends { g with conditions := g.conditions ++ [c] } :=
  ⟨rfl, List.subset_append_left _ _, List.Subset.refl _⟩

theorem extends_appendGroup (g sub : Group) : g.Extends { g with groups := g.groups ++ [sub] } :=
  ⟨rfl, List.Subset.refl _, List.subset_append_left _ _⟩

theorem extends_of_removeCondition {g g' : Group} {index : Int} (h : g.removeCondition index = .ok g') :
    g'.Extends g := by
  obtain ⟨i, c, -, -, rfl⟩ := removeCondition_eq_ok.1 h
  exact ⟨rfl, (List.eraseIdx_sublist _ _).subset, List.Subset.refl _⟩

theorem extends_of_removeSubGroup {g g' : Group} {index : Int} (h : g.removeSubGroup index = .ok g') :
    g'.Extends g := by
  obtain ⟨i, sub, -, -, rfl⟩ := removeSubGroup_eq_ok.1 h
  exact ⟨rfl, List.Subset.refl _, (List.eraseIdx_sublist _ _).subset⟩

/-- An AND group with more children holds less often. -/
theorem Extends.holds_and {g g' : Group} (h : g.Extends g') (hand : g.connective = .and)
    (hg' : g'.holds catalogue now contact = true) : g.holds catalogue now contact = true := by
  obtain ⟨hconnective, hconditions, hgroups⟩ := h
  rw [hand] at hconnective
  obtain ⟨id, connective, conditions, groups⟩ := g
  obtain ⟨id', connective', conditions', groups'⟩ := g'
  cases hand
  cases hconnective
  rw [Group.holds_and] at hg' ⊢
  exact ⟨fun c hc => hg'.1 c (hconditions hc), fun sub hsub => hg'.2 sub (hgroups hsub)⟩

/-- An OR group with more children holds more often. -/
theorem Extends.holds_or {g g' : Group} (h : g.Extends g') (hor : g.connective = .or)
    (hg : g.holds catalogue now contact = true) : g'.holds catalogue now contact = true := by
  obtain ⟨hconnective, hconditions, hgroups⟩ := h
  rw [hor] at hconnective
  obtain ⟨id, connective, conditions, groups⟩ := g
  obtain ⟨id', connective', conditions', groups'⟩ := g'
  cases hor
  cases hconnective
  rw [Group.holds_or] at hg ⊢
  rcases hg with ⟨c, hc, hholds⟩ | ⟨sub, hsub, hholds⟩
  · exact .inl ⟨c, hconditions hc, hholds⟩
  · exact .inr ⟨sub, hgroups hsub, hholds⟩

/-- With a child at all, a group that holds under AND holds under OR. -/
theorem holds_toggle_of_and {g : Group} (hand : g.connective = .and) (hchild : g.isVacuous = false)
    (hg : g.holds catalogue now contact = true) : g.toggle.holds catalogue now contact = true := by
  obtain ⟨id, connective, conditions, groups⟩ := g
  cases hand
  change holds catalogue now contact ⟨id, .or, conditions, groups⟩ = true
  rw [holds_and] at hg
  rw [holds_or]
  cases conditions with
  | cons c cs => exact .inl ⟨c, List.mem_cons_self, hg.1 c List.mem_cons_self⟩
  | nil =>
    cases groups with
    | cons sub gs => exact .inr ⟨sub, List.mem_cons_self, hg.2 sub List.mem_cons_self⟩
    | nil => cases hchild

theorem holds_of_toggle_or {g : Group} (hor : g.connective = .or) (hchild : g.isVacuous = false)
    (hg : g.toggle.holds catalogue now contact = true) : g.holds catalogue now contact = true := by
  obtain ⟨id, connective, conditions, groups⟩ := g
  cases hor
  exact holds_toggle_of_and (g := ⟨id, .and, conditions, groups⟩) rfl hchild hg

end Group

/-! ## Audiences -/

namespace Evaluator

variable (e : Evaluator) (contacts : List Value)

/-- The records that are kept for the first tree are, in their order, kept for the second one. -/
def Within (t t' : Group) : Prop :=
  ((e.filter t contacts).1).Sublist (e.filter t' contacts).1

/-- What more children of a group with the connective do to an audience: under AND it loses records, under
OR it gains some. -/
def Shifts : Connective → Group → Group → Prop
  | .and, t, t' => Within e contacts t' t
  | .or, t, t' => Within e contacts t t'

variable {e contacts}

theorem filter_eq (t : Group) :
    (e.filter t contacts).1 = contacts.filter fun contact => t.holds e.catalogue e.now.1 contact :=
  rfl

theorem mem_filter {t : Group} {contact : Value} :
    contact ∈ (e.filter t contacts).1 ↔
      contact ∈ contacts ∧ t.holds e.catalogue e.now.1 contact = true := by
  rw [filter_eq, List.mem_filter]

theorem within_of_holds {t t' : Group}
    (h : ∀ contact ∈ contacts, t.holds e.catalogue e.now.1 contact = true →
      t'.holds e.catalogue e.now.1 contact = true) : e.Within contacts t t' := by
  have htwice : (e.filter t contacts).1 =
      (e.filter t' contacts).1.filter fun contact => t.holds e.catalogue e.now.1 contact := by
    rw [filter_eq, filter_eq, List.filter_filter]
    refine List.filter_congr fun contact hcontact => ?_
    have himp := h contact hcontact
    cases hholds : t.holds e.catalogue e.now.1 contact with
    | false => rfl
    | true => rw [himp hholds]; rfl
  unfold Within
  rw [htwice]
  exact List.filter_sublist

variable {t t' g g' : Group} {path : List Int} {edit : Group → Except EditError Group}

/-- An edit after which a group holds for more of the records lets more of them through. -/
theorem within_updateAt (hg : t.getAt path = .ok g) (h : t.updateAt edit path = .ok t')
    (hedit : edit g = .ok g')
    (himp : ∀ contact ∈ contacts, g.holds e.catalogue e.now.1 contact = true →
      g'.holds e.catalogue e.now.1 contact = true) : e.Within contacts t t' := by
  refine within_of_holds fun contact hcontact => ?_
  exact Group.updateAt_lift (R := fun g g' => g.holds e.catalogue e.now.1 contact = true →
      g'.holds e.catalogue e.now.1 contact = true)
    (fun outer i sub sub' hsub hR => Group.holds_set hsub hR) hg h hedit (himp contact hcontact)

/-- An edit after which a group holds for fewer of the records lets fewer of them through. -/
theorem updateAt_within (hg : t.getAt path = .ok g) (h : t.updateAt edit path = .ok t')
    (hedit : edit g = .ok g')
    (himp : ∀ contact ∈ contacts, g'.holds e.catalogue e.now.1 contact = true →
      g.holds e.catalogue e.now.1 contact = true) : e.Within contacts t' t := by
  refine within_of_holds fun contact hcontact => ?_
  exact Group.updateAt_lift (R := fun g g' => g'.holds e.catalogue e.now.1 contact = true →
      g.holds e.catalogue e.now.1 contact = true)
    (fun outer i sub sub' hsub hR => Group.holds_of_set hsub hR) hg h hedit (himp contact hcontact)

/-- More children of a group shift the audience of the tree. -/
theorem exists_shifts_of_extends (hg : t.getAt path = .ok g) (hedit : edit g = .ok g')
    (hextends : g.Extends g') :
    ∃ t', t.updateAt edit path = .ok t' ∧ e.Shifts contacts g.connective t t' := by
  obtain ⟨t', h⟩ := Group.exists_updateAt hg hedit
  refine ⟨t', h, ?_⟩
  cases hconnective : g.connective with
  | and => exact updateAt_within hg h hedit fun contact _ => hextends.holds_and hconnective
  | or => exact within_updateAt hg h hedit fun contact _ => hextends.holds_or hconnective

/-- Fewer children of a group shift it the other way. -/
theorem exists_shifts_of_extended (hg : t.getAt path = .ok g) (hedit : edit g = .ok g')
    (hextends : g'.Extends g) :
    ∃ t', t.updateAt edit path = .ok t' ∧ e.Shifts contacts g.connective t' t := by
  obtain ⟨t', h⟩ := Group.exists_updateAt hg hedit
  refine ⟨t', h, ?_⟩
  have hsame := hextends.connective
  cases hconnective : g.connective with
  | and =>
    exact within_updateAt hg h hedit fun contact _ => hextends.holds_and (hsame ▸ hconnective)
  | or =>
    exact updateAt_within hg h hedit fun contact _ => hextends.holds_or (hsame ▸ hconnective)

/-- Another connective shifts the audience as fewer children do. -/
theorem exists_shifts_toggle (hg : t.getAt path = .ok g) (hchild : g.isVacuous = false) :
    ∃ t', t.updateAt (fun g => .ok g.toggle) path = .ok t' ∧ e.Shifts contacts g.connective t' t := by
  have hupdate : ∃ t', t.updateAt (fun g => .ok g.toggle) path = .ok t' :=
    Group.exists_updateAt hg rfl
  obtain ⟨t', h⟩ := hupdate
  refine ⟨t', h, ?_⟩
  cases hconnective : g.connective with
  | and => exact within_updateAt hg h rfl fun contact _ => Group.holds_toggle_of_and hconnective hchild
  | or => exact updateAt_within hg h rfl fun contact _ => Group.holds_of_toggle_or hconnective hchild

/-- The audience of the tree follows that of the group at the path. -/
theorem exists_within_replaced (hg : t.getAt path = .ok g) (g' : Group) :
    ∃ t', t.updateAt (fun _ => .ok g') path = .ok t' ∧
      ((e.filter g contacts).1 ⊆ (e.filter g' contacts).1 → e.Within contacts t t') ∧
      ((e.filter g' contacts).1 ⊆ (e.filter g contacts).1 → e.Within contacts t' t) := by
  have hupdate : ∃ t', t.updateAt (fun _ => .ok g') path = .ok t' :=
    Group.exists_updateAt hg rfl
  obtain ⟨t', h⟩ := hupdate
  refine ⟨t', h, fun hsubset => ?_, fun hsubset => ?_⟩
  · refine within_updateAt hg h rfl fun contact hcontact hholds => ?_
    exact (mem_filter.1 (hsubset (mem_filter.2 ⟨hcontact, hholds⟩))).2
  · refine updateAt_within hg h rfl fun contact hcontact hholds => ?_
    exact (mem_filter.1 (hsubset (mem_filter.2 ⟨hcontact, hholds⟩))).2

/-- The edits of the group at a path of a tree, and what they do to the audience of the tree: one more
condition or sub-group takes records away from it under AND and brings some in under OR; one less does the
reverse, and so does the other connective for a group with children; and a group in the place of another
moves the audience of the tree the way its own audience moves. -/
theorem filter_updateAt (e : Evaluator) (contacts : List Value) {t g : Group} {path : List Int}
    (hg : t.getAt path = .ok g) :
    (∀ c : Condition, ∃ t', t.updateAt (fun g => .ok { g with conditions := g.conditions ++ [c] }) path = .ok t' ∧
      e.Shifts contacts g.connective t t') ∧
    (∀ sub : Group, ∃ t', t.updateAt (fun g => .ok { g with groups := g.groups ++ [sub] }) path = .ok t' ∧
      e.Shifts contacts g.connective t t') ∧
    (∀ catalogue id, ∃ t', t.updateAt (fun g => .ok (g.addCondition catalogue id)) path = .ok t' ∧
      e.Shifts contacts g.connective t t') ∧
    (∀ catalogue id conditionId, ∃ t',
      t.updateAt (fun g => .ok (g.addSubGroup catalogue id conditionId)) path = .ok t' ∧
        e.Shifts contacts g.connective t t') ∧
    (∀ i < g.conditions.length, ∃ t', t.updateAt (Group.removeCondition i) path = .ok t' ∧
      e.Shifts contacts g.connective t' t) ∧
    (∀ i < g.groups.length, ∃ t', t.updateAt (Group.removeSubGroup i) path = .ok t' ∧
      e.Shifts contacts g.connective t' t) ∧
    (g.isVacuous = false → ∃ t', t.updateAt (fun g => .ok g.toggle) path = .ok t' ∧
      e.Shifts contacts g.connective t' t) ∧
    (∀ g', ∃ t', t.updateAt (fun _ => .ok g') path = .ok t' ∧
      ((e.filter g contacts).1 ⊆ (e.filter g' contacts).1 → e.Within contacts t t') ∧
      ((e.filter g' contacts).1 ⊆ (e.filter g contacts).1 → e.Within contacts t' t) ∧
      ((e.filter g contacts).1 ⊆ (e.filter g' contacts).1 →
        (e.filter g' contacts).1 ⊆ (e.filter g contacts).1 →
          (e.filter t' contacts).1 = (e.filter t contacts).1)) := by
  refine ⟨fun c => ?_, fun sub => ?_, fun catalogue id => ?_, fun catalogue id conditionId => ?_,
    fun i hi => ?_, fun i hi => ?_, fun hchild => ?_, fun g' => ?_⟩
  · exact exists_shifts_of_extends hg rfl (g.extends_appendCondition c)
  · exact exists_shifts_of_extends hg rfl (g.extends_appendGroup sub)
  · exact exists_shifts_of_extends hg rfl (g.extends_appendCondition _)
  · exact exists_shifts_of_extends hg rfl (g.extends_appendGroup _)
  · have hremove : g.removeCondition i = .ok { g with conditions := g.conditions.eraseIdx i } :=
      Group.removeCondition_eq_ok.2 ⟨i, g.conditions[i], rfl, List.getElem?_eq_getElem hi, rfl⟩
    exact exists_shifts_of_extended hg hremove (Group.extends_of_removeCondition hremove)
  · have hremove : g.removeSubGroup i = .ok { g with groups := g.groups.eraseIdx i } :=
      Group.removeSubGroup_eq_ok.2 ⟨i, g.groups[i], rfl, List.getElem?_eq_getElem hi, rfl⟩
    exact exists_shifts_of_extended hg hremove (Group.extends_of_removeSubGroup hremove)
  · exact exists_shifts_toggle hg hchild
  · obtain ⟨t', h, hmore, hless⟩ := exists_within_replaced hg g'
    exact ⟨t', h, hmore, hless, fun hto hfrom => (hless hfrom).antisymm (hmore hto)⟩

/-- For the OR group below the root of a tree: removing its condition and toggling it. -/
theorem filter_updateAt_below_root :
    let time : DateTime := .midnight { year := 2026, month := 10, day := 17 }
    let e : Evaluator := ⟨Catalogue.contact, .fixed time, time⟩
    let contacts : List Value := [.mapping [(.text "lead_score", .int 5)], .mapping []]
    let g : Group := ⟨"g", .or, [⟨"c", "lead_score", .known .greaterThan, .int 3, .null⟩], []⟩
    let t : Group := ⟨"t", .and, [], [g]⟩
    (t.getAt [0] = .ok g ∧ g.isVacuous = false) ∧
      (∃ t', t.updateAt (Group.removeCondition 0) [0] = .ok t' ∧ e.Shifts contacts .or t' t) ∧
      ∃ t', t.updateAt (fun g => .ok g.toggle) [0] = .ok t' ∧ e.Shifts contacts .or t' t := by
  intro time e contacts g t
  have hg : t.getAt [0] = .ok g := rfl
  obtain ⟨-, -, -, -, hremove, -, htoggle, -⟩ := filter_updateAt e contacts hg
  exact ⟨⟨hg, rfl⟩, hremove 0 (by decide), htoggle rfl⟩

end Evaluator

end Segmentation
