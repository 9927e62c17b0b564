import Mathlib.Data.List.Infix
import Segmentation.Proofs.Editing.Lens

/-!
# Edits at a path are local

* `Group.Apart`: paths of which neither leads through the group of the other.
* `Group.getAt_updateAt_of_apart`: a group apart from the edited one is as it was.
* `Group.exists_getAt_ancestor`: a group around the edited one has another sub-group on the path, and all else
  is as it was.
* `Group.updateAt_comm`: edits apart from each other can be made in any order.
* `Group.updateAt_local`: all of this together.
-/

namespace Segmentation.Group

variable {edit f g : Group → Except EditError Group} {root root' r a a' b b' : Group} {p q : List Int}

/-! ## Paths that part -/

/-- Neither path leads to the group of the other, nor further down from it. -/
structure Apart (p q : List Int) : Prop where
  left : ¬ p <+: q
  right : ¬ q <+: p

theorem not_apart_nil_left : ¬ Apart [] q :=
  fun h => h.left (List.nil_prefix)

theorem not_apart_nil_right : ¬ Apart p [] :=
  fun h => h.right (List.nil_prefix)

/-- Paths with one first index part further down. -/
theorem apart_cons_self {index : Int} : Apart (index :: p) (index :: q) ↔ Apart p q := by
  constructor
  · rintro ⟨hleft, hright⟩
    exact ⟨fun h => hleft ((List.prefix_cons_inj index).2 h), fun h => hright ((List.prefix_cons_inj index).2 h)⟩
  · rintro ⟨hleft, hright⟩
    exact ⟨fun h => hleft ((List.prefix_cons_inj index).1 h), fun h => hright ((List.prefix_cons_inj index).1 h)⟩

/-! ## Groups beside the path -/

/-- A group apart from the edited one is found unchanged, and a path that leads nowhere still does. -/
theorem getAt_updateAt_of_apart (h : root.updateAt edit p = .ok root') (hpq : Apart p q) :
    root'.getAt q = root.getAt q := by
  induction p generalizing q root root' with
  | nil => exact absurd hpq not_apart_nil_left
  | cons index p ih =>
    cases q with
    | nil => exact absurd hpq not_apart_nil_right
    | cons index' q =>
      obtain ⟨i, sub, sub', rfl, hsub, hsub', rfl⟩ := updateAt_cons.1 h
      obtain ⟨hi, -⟩ := List.getElem?_eq_some_iff.1 hsub
      by_cases hindex : index' = i
      · subst hindex
        rw [getAt_subGroup hsub, getAt_subGroup (List.getElem?_set_self hi)]
        exact ih hsub' (apart_cons_self.1 hpq)
      · rcases root.exists_subGroup_or_error index' with ⟨j, other, rfl, hother⟩ | herror
        · have hji : j ≠ i := fun heq => hindex (congrArg Int.ofNat heq)
          have hother' : (root.groups.set i sub')[j]? = some other := by
            rw [List.getElem?_set_ne hji.symm, hother]
          rw [getAt_subGroup hother, getAt_subGroup hother']
        · have herror' : childAt .group (root.groups.set i sub') index' =
              .error (.noChild .group index' root.groups.length) := by
            rw [childAt_eq_error, List.length_set]
            exact childAt_eq_error.1 herror
          rw [getAt_of_error herror, getAt_of_error herror']

/-! ## Groups around the edited one -/

/-- A group around the edited one has the edited sub-group in its place, and all else as it was. -/
theorem exists_getAt_ancestor {before after : List Int} {index : Int}
    (h : root.updateAt edit (before ++ index :: after) = .ok root') :
    ∃ (outer : Group) (i : Nat) (sub sub' : Group), index = i ∧ root.getAt before = .ok outer ∧
      outer.groups[i]? = some sub ∧ sub.updateAt edit after = .ok sub' ∧
        root'.getAt before = .ok { outer with groups := outer.groups.set i sub' } := by
  rw [updateAt_append] at h
  obtain ⟨outer, outer', houter, hedit⟩ := exists_getAt_of_updateAt h
  have hfound := getAt_updateAt h houter hedit
  obtain ⟨i, sub, sub', rfl, hsub, hsub', rfl⟩ := updateAt_cons.1 hedit
  exact ⟨outer, i, sub, sub', rfl, houter, hsub, hsub', hfound⟩

/-! ## Two edits -/

/-- Edits apart from each other do not disturb each other, and their order does not matter. -/
theorem updateAt_comm (hp : root.updateAt f p = .ok root') (hq : root.updateAt g q = .ok r) (hpq : Apart p q) :
    ∃ both, root'.updateAt g q = .ok both ∧ r.updateAt f p = .ok both := by
  induction p generalizing q root root' r with
  | nil => exact absurd hpq not_apart_nil_left
  | cons index p ih =>
    cases q with
    | nil => exact absurd hpq not_apart_nil_right
    | cons index' q =>
      obtain ⟨i, sub, sub', rfl, hsub, hsub', rfl⟩ := updateAt_cons.1 hp
      obtain ⟨j, other, other', rfl, hother, hother', rfl⟩ := updateAt_cons.1 hq
      obtain ⟨hi, -⟩ := List.getElem?_eq_some_iff.1 hsub
      obtain ⟨hj, -⟩ := List.getElem?_eq_some_iff.1 hother
      by_cases hij : i = j
      · -- The paths go on into one sub-group and part there.
        subst hij
        cases hsub.symm.trans hother
        obtain ⟨both, hleft, hright⟩ := ih hsub' hother' (apart_cons_self.1 hpq)
        refine ⟨{ root with groups := root.groups.set i both }, ?_, ?_⟩
        · refine updateAt_cons.2 ⟨i, sub', both, rfl, List.getElem?_set_self hi, hleft, ?_⟩
          rw [List.set_set]
        · refine updateAt_cons.2 ⟨i, other', both, rfl, List.getElem?_set_self hi, hright, ?_⟩
          rw [List.set_set]
      · refine ⟨{ root with groups := (root.groups.set i sub').set j other' }, ?_, ?_⟩
        · refine updateAt_cons.2 ⟨j, other, other', rfl, ?_, hother', rfl⟩
          rw [List.getElem?_set_ne hij, hother]
        · refine updateAt_cons.2 ⟨i, sub, sub', rfl, ?_, hsub', ?_⟩
          · rw [List.getElem?_set_ne (Ne.symm hij), hsub]
          · rw [List.set_comm _ _ hij]

/-- An edit of the group at a path touches nothing else. Groups apart from it are found unchanged; a group around it
keeps its identifier, connective and conditions, and all sub-groups but the one on the path; and an edit of a
group apart from it can as well be made before as after it. -/
theorem updateAt_local (ha : root.getAt p = .ok a) (hf : f a = .ok a') :
    ∃ root', root.updateAt f p = .ok root' ∧
      (∀ q, Apart p q → root'.getAt q = root.getAt q) ∧
      (∀ (before : List Int) (index : Int) (after : List Int), p = before ++ index :: after →
        ∃ outer outer', root.getAt before = .ok outer ∧ root'.getAt before = .ok outer' ∧
          outer'.id = outer.id ∧ outer'.connective = outer.connective ∧ outer'.conditions = outer.conditions ∧
          outer'.groups.length = outer.groups.length ∧
          ∀ j : Nat, (j : Int) ≠ index → outer'.groups[j]? = outer.groups[j]?) ∧
      ∀ (q : List Int) (g : Group → Except EditError Group) (b b' : Group), Apart p q → root.getAt q = .ok b →
        g b = .ok b' → ∃ r both, root.updateAt g q = .ok r ∧
          root'.updateAt g q = .ok both ∧ r.updateAt f p = .ok both := by
  obtain ⟨root', hp⟩ := exists_updateAt ha hf
  refine ⟨root', hp, fun q hpq => getAt_updateAt_of_apart hp hpq, ?_, ?_⟩
  · rintro before index after rfl
    obtain ⟨outer, i, sub, sub', rfl, houter, -, -, houter'⟩ := exists_getAt_ancestor hp
    refine ⟨outer, _, houter, houter', rfl, rfl, rfl, List.length_set, fun j hj => ?_⟩
    exact List.getElem?_set_ne fun heq => hj (congrArg Int.ofNat heq.symm)
  · intro q g b b' hpq hb hg
    obtain ⟨r, hq⟩ := exists_updateAt hb hg
    obtain ⟨both, hleft, hright⟩ := updateAt_comm hp hq hpq
    exact ⟨r, both, hq, hleft, hright⟩

/-- A tree with two sub-groups, of which the second has one itself. -/
def branching : Group :=
  ⟨"root", .and, [], [⟨"left", .or, [], []⟩, ⟨"right", .and, [], [⟨"inner", .or, [], []⟩]⟩]⟩

/-- The innermost group is toggled, beside the first sub-group and below the second one. -/
theorem updateAt_local_branching :
    let toggled : Group → Except EditError Group := fun a => .ok a.toggle
    (branching.getAt [1, 0] = .ok ⟨"inner", .or, [], []⟩ ∧
      toggled ⟨"inner", .or, [], []⟩ = .ok ⟨"inner", .and, [], []⟩) ∧
      ∃ root', branching.updateAt toggled [1, 0] = .ok root' ∧ root'.getAt [0] = branching.getAt [0] ∧
        ∃ r both, branching.updateAt toggled [0] = .ok r ∧ root'.updateAt toggled [0] = .ok both ∧
          r.updateAt toggled [1, 0] = .ok both := by
  intro toggled
  have ha : branching.getAt [1, 0] = .ok ⟨"inner", .or, [], []⟩ := rfl
  have hf : toggled ⟨"inner", .or, [], []⟩ = .ok ⟨"inner", .and, [], []⟩ := rfl
  have hb : branching.getAt [0] = .ok ⟨"left", .or, [], []⟩ := rfl
  have hapart : Apart [1, 0] [0] := ⟨by decide, by decide⟩
  obtain ⟨root', hroot', hbeside, -, hcomm⟩ := updateAt_local ha hf
  exact ⟨⟨ha, hf⟩, root', hroot', hbeside [0] hapart, hcomm [0] toggled _ _ hapart hb rfl⟩

end Segmentation.Group
