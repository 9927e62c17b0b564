import Mathlib.Data.List.Basic
import Segmentation.Proofs.Editing.Path

/-!
# Paths as lenses

* `Group.getAt_append`, `Group.updateAt_append`: a path is followed in two parts.
* `Group.getAt_eq_error`: a path is refused at its first index that leads nowhere.
* `Group.updateAt_of_getAt_error`, `Group.updateAt_of_edit_error`: an edit at a path is refused with the error of
  the path, whatever the edit is, or with the error of the edit.
* `Group.getAt_updateAt`, `Group.updateAt_ok`, `Group.updateAt_updateAt`: what is put at a path is found there,
  putting back what is there changes nothing, and two edits at one path are one.
* `Group.updateAt_lens`: all of this together.
-/

namespace Segmentation

theorem childAt_eq_error {α : Type} {kind : ChildKind} {children : List α} {index : Int} {e : EditError} :
    childAt kind children index = .error e ↔
      (index < 0 ∨ children.length ≤ index) ∧ e = .noChild kind index children.length := by
  unfold childAt
  by_cases hneg : index < 0
  · simp [hneg, eq_comm]
  · rw [if_neg hneg]
    obtain ⟨i, rfl⟩ := Int.eq_ofNat_of_zero_le (Int.not_lt.1 hneg)
    cases hchild : children[(i : Int).toNat]? with
    | some child =>
      obtain ⟨hlt, -⟩ := List.getElem?_eq_some_iff.1 hchild
      simp only [reduceCtorEq, false_iff, not_and, Int.toNat_natCast] at hlt ⊢
      omega
    | none =>
      have hle : children.length ≤ i := List.getElem?_eq_none_iff.1 hchild
      simp [hle, eq_comm]

namespace Group

variable {edit f g : Group → Except EditError Group} {root root' a a' : Group} {path : List Int}
  {index : Int} {i : Nat} {sub : Group} {e : EditError}

/-! ## One index of a path -/

/-- An index is that of a sub-group, or it is refused. -/
theorem exists_subGroup_or_error (root : Group) (index : Int) :
    (∃ (i : Nat) (sub : Group), index = i ∧ root.groups[i]? = some sub) ∨
      childAt .group root.groups index = .error (.noChild .group index root.groups.length) := by
  cases hchild : childAt .group root.groups index with
  | ok found => exact .inl ⟨found.1, found.2, childAt_eq_ok.1 hchild⟩
  | error e => exact .inr (by rw [(childAt_eq_error.1 hchild).2])

theorem getAt_subGroup (hsub : root.groups[i]? = some sub) : root.getAt (i :: path) = sub.getAt path := by
  have hchild : childAt .group root.groups (i : Int) = .ok (i, sub) := childAt_eq_ok.2 ⟨rfl, hsub⟩
  rw [getAt, hchild]
  rfl

theorem getAt_of_error (h : childAt .group root.groups index = .error e) :
    root.getAt (index :: path) = .error e := by
  rw [getAt, h]
  rfl

theorem updateAt_subGroup (hsub : root.groups[i]? = some sub) :
    root.updateAt edit (i :: path) =
      sub.updateAt edit path >>= fun sub' => .ok { root with groups := root.groups.set i sub' } := by
  have hchild : childAt .group root.groups (i : Int) = .ok (i, sub) := childAt_eq_ok.2 ⟨rfl, hsub⟩
  rw [updateAt, hchild]
  rfl

theorem updateAt_of_error (h : childAt .group root.groups index = .error e) :
    root.updateAt edit (index :: path) = .error e := by
  rw [updateAt, h]
  rfl

/-! ## Paths in two parts -/

theorem getAt_append (root : Group) (p q : List Int) :
    root.getAt (p ++ q) = root.getAt p >>= fun a => a.getAt q := by
  induction p generalizing root with
  | nil => rfl
  | cons index p ih =>
    rw [List.cons_append]
    rcases root.exists_subGroup_or_error index with ⟨i, sub, rfl, hsub⟩ | herror
    · rw [getAt_subGroup hsub, getAt_subGroup hsub, ih]
    · rw [getAt_of_error herror, getAt_of_error herror]
      rfl

theorem updateAt_append (root : Group) (edit : Group → Except EditError Group) (p q : List Int) :
    root.updateAt edit (p ++ q) = root.updateAt (fun a => a.updateAt edit q) p := by
  induction p generalizing root with
  | nil => rfl
  | cons index p ih =>
    rw [List.cons_append]
    rcases root.exists_subGroup_or_error index with ⟨i, sub, rfl, hsub⟩ | herror
    · rw [updateAt_subGroup hsub, updateAt_subGroup hsub, ih]
    · rw [updateAt_of_error herror, updateAt_of_error herror]

/-! ## Refusals -/

/-- A path leads nowhere if one of its indexes is none of a sub-group; the error names the first such index and
the number of sub-groups there are. -/
theorem getAt_eq_error : root.getAt path = .error e ↔
    ∃ (before : List Int) (index : Int) (after : List Int) (a : Group), path = before ++ index :: after ∧
      root.getAt before = .ok a ∧ (index < 0 ∨ a.groups.length ≤ index) ∧
        e = .noChild .group index a.groups.length := by
  constructor
  · intro h
    induction path generalizing root with
    | nil => cases h
    | cons index path ih =>
      rcases root.exists_subGroup_or_error index with ⟨i, sub, rfl, hsub⟩ | herror
      · rw [getAt_subGroup hsub] at h
        obtain ⟨before, index, after, a, rfl, hbefore, hindex, rfl⟩ := ih h
        exact ⟨i :: before, index, after, a, rfl, (getAt_subGroup hsub).trans hbefore, hindex, rfl⟩
      · rw [getAt_of_error herror] at h
        cases h
        exact ⟨[], index, path, root, rfl, rfl, (childAt_eq_error.1 herror).1, rfl⟩
  · rintro ⟨before, index, after, a, rfl, hbefore, hindex, rfl⟩
    have hrest : a.getAt (index :: after) = .error (.noChild .group index a.groups.length) :=
      getAt_of_error (childAt_eq_error.2 ⟨hindex, rfl⟩)
    rw [getAt_append, hbefore]
    exact hrest

/-- Where a path leads nowhere, no edit is tried. -/
theorem updateAt_of_getAt_error (h : root.getAt path = .error e) (edit : Group → Except EditError Group) :
    root.updateAt edit path = .error e := by
  induction path generalizing root with
  | nil => cases h
  | cons index path ih =>
    rcases root.exists_subGroup_or_error index with ⟨i, sub, rfl, hsub⟩ | herror
    · rw [getAt_subGroup hsub] at h
      rw [updateAt_subGroup hsub, ih h]
      rfl
    · rw [getAt_of_error herror] at h
      rw [updateAt_of_error herror, h]

/-- An edit that is refused at the end of a path is refused with its own error. -/
theorem updateAt_of_edit_error (ha : root.getAt path = .ok a) (h : edit a = .error e) :
    root.updateAt edit path = .error e := by
  induction path generalizing root with
  | nil =>
    cases ha
    exact h
  | cons index path ih =>
    obtain ⟨i, sub, rfl, hsub, ha⟩ := getAt_cons.1 ha
    rw [updateAt_subGroup hsub, ih ha]
    rfl

/-! ## Putting and getting -/

theorem eta (root : Group) : (⟨root.id, root.connective, root.conditions, root.groups⟩ : Group) = root := by
  cases root
  rfl

/-- What an edit makes of the group at a path is found there afterwards. -/
theorem getAt_updateAt (h : root.updateAt edit path = .ok root') (ha : root.getAt path = .ok a)
    (hedit : edit a = .ok a') : root'.getAt path = .ok a' := by
  induction path generalizing root root' with
  | nil =>
    cases ha
    cases hedit.symm.trans h
    rfl
  | cons index path ih =>
    obtain ⟨i, sub, sub', rfl, hsub, hsub', rfl⟩ := updateAt_cons.1 h
    obtain ⟨hi, -⟩ := List.getElem?_eq_some_iff.1 hsub
    rw [getAt_subGroup hsub] at ha
    rw [getAt_subGroup (List.getElem?_set_self hi)]
    exact ih hsub' ha

/-- Putting back what is there changes nothing. -/
theorem updateAt_ok (ha : root.getAt path = .ok a) : root.updateAt .ok path = .ok root := by
  induction path generalizing root with
  | nil => rfl
  | cons index path ih =>
    obtain ⟨i, sub, rfl, hsub, ha⟩ := getAt_cons.1 ha
    obtain ⟨hi, rfl⟩ := List.getElem?_eq_some_iff.1 hsub
    refine updateAt_cons.2 ⟨i, _, _, rfl, hsub, ih ha, ?_⟩
    rw [List.set_getElem_self]
    exact (eta root).symm

/-- One edit after another at one path, each of which may be refused, are one edit. -/
theorem updateAt_updateAt (root : Group) (f g : Group → Except EditError Group) (path : List Int) :
    (root.updateAt f path >>= fun r => r.updateAt g path) = root.updateAt (fun a => f a >>= g) path := by
  induction path generalizing root with
  | nil => rfl
  | cons index path ih =>
    rcases root.exists_subGroup_or_error index with ⟨i, sub, rfl, hsub⟩ | herror
    · obtain ⟨hi, -⟩ := List.getElem?_eq_some_iff.1 hsub
      rw [updateAt_subGroup hsub, updateAt_subGroup hsub, ← ih, bind_assoc, bind_assoc]
      refine bind_congr fun sub' => ?_
      -- The second edit finds the sub-group where the first one has put it.
      have hsub' : (root.groups.set i sub')[i]? = some sub' := List.getElem?_set_self hi
      change updateAt g { root with groups := root.groups.set i sub' } (i :: path) = _
      rw [updateAt_subGroup hsub']
      exact bind_congr fun sub'' => by rw [List.set_set]
    · rw [updateAt_of_error herror, updateAt_of_error herror]
      rfl

/-- A path reads and writes one place. It is refused for every edit alike, with the index that leads nowhere; an
edit that fails there fails with its own error; and otherwise its outcome is found at the path, where everything
but the outcome of the last edit is forgotten. A path in two parts is an edit at the first part. -/
theorem updateAt_lens (root : Group) (path : List Int) :
    (match root.getAt path with
      | .error e =>
        (∃ (before : List Int) (index : Int) (after : List Int) (a : Group), path = before ++ index :: after ∧
          root.getAt before = .ok a ∧ (index < 0 ∨ a.groups.length ≤ index) ∧
            e = .noChild .group index a.groups.length) ∧
        ∀ edit, root.updateAt edit path = .error e
      | .ok a =>
        root.updateAt .ok path = .ok root ∧
        ∀ edit : Group → Except EditError Group, match edit a with
          | .error e => root.updateAt edit path = .error e
          | .ok a' => ∃ root', root.updateAt edit path = .ok root' ∧ root'.getAt path = .ok a') ∧
    (∀ f g, (root.updateAt f path >>= fun r => r.updateAt g path) = root.updateAt (fun a => f a >>= g) path) ∧
    ∀ rest edit, root.updateAt edit (path ++ rest) = root.updateAt (fun a => a.updateAt edit rest) path := by
  refine ⟨?_, fun f g => root.updateAt_updateAt f g path, fun rest edit => root.updateAt_append edit path rest⟩
  cases ha : root.getAt path with
  | error e => exact ⟨getAt_eq_error.1 ha, updateAt_of_getAt_error ha⟩
  | ok a =>
    refine ⟨updateAt_ok ha, fun edit => ?_⟩
    cases hedit : edit a with
    | error e => exact updateAt_of_edit_error ha hedit
    | ok a' =>
      obtain ⟨root', h⟩ := exists_updateAt ha hedit
      exact ⟨root', h, getAt_updateAt h ha hedit⟩

end Group

end Segmentation
