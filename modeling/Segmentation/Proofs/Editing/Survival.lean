import Segmentation.Proofs.Editing.Fresh

/-!
# What becomes of the nodes of a tree

* `Address`, `Group.idAt?`: the place of a node in a tree, and the identifier of the node there.
* `GroupEdit.origin`, `Step.origin`: where a node of the new tree stood in the old one.
* `Step.run_traces`: a node that stood in the old tree has kept its identifier, and any other one has an
  identifier that the step drew.
-/

namespace Segmentation

/-- The place of a node: the path to a group, and the index among its conditions if the node is one. -/
structure Address where
  path : List Nat
  condition : Option Nat

namespace Group

/-- The group that is reached by indexes of sub-groups. -/
def subAt? (g : Group) : List Nat → Option Group
  | [] => some g
  | i :: path => (g.groups[i]?).bind fun sub => sub.subAt? path

/-- The identifier of the group itself, or of one of its conditions. -/
def ownId? (g : Group) : Option Nat → Option String
  | none => some g.id
  | some i => (g.conditions[i]?).map (·.id)

/-- The identifier of the node at an address. -/
def idAt? (g : Group) (a : Address) : Option String :=
  (g.subAt? a.path).bind fun sub => sub.ownId? a.condition

theorem idAt?_nil (g : Group) (c : Option Nat) : g.idAt? ⟨[], c⟩ = g.ownId? c :=
  rfl

theorem idAt?_cons (g : Group) (i : Nat) (path : List Nat) (c : Option Nat) :
    g.idAt? ⟨i :: path, c⟩ = (g.groups[i]?).bind fun sub => sub.idAt? ⟨path, c⟩ := by
  unfold idAt?
  rw [subAt?, Option.bind_assoc]

/-- The identifiers of a tree are those of the nodes at its addresses. -/
theorem mem_ids_iff {g : Group} {id : String} : id ∈ g.ids ↔ ∃ a, g.idAt? a = some id := by
  induction g with
  | node g ih =>
    rw [ids_eq, List.mem_cons, List.mem_append, List.mem_map, List.mem_flatMap]
    constructor
    · rintro (rfl | ⟨c, hc, rfl⟩ | ⟨sub, hsub, hid⟩)
      · exact ⟨⟨[], none⟩, rfl⟩
      · obtain ⟨i, hi⟩ := List.mem_iff_getElem?.1 hc
        refine ⟨⟨[], some i⟩, ?_⟩
        rw [idAt?_nil, ownId?, hi, Option.map_some]
      · obtain ⟨i, hi⟩ := List.mem_iff_getElem?.1 hsub
        obtain ⟨⟨path, c⟩, ha⟩ := (ih sub hsub).1 hid
        refine ⟨⟨i :: path, c⟩, ?_⟩
        rw [idAt?_cons, hi, Option.bind_some, ha]
    · rintro ⟨⟨path, c⟩, ha⟩
      cases path with
      | nil =>
        rw [idAt?_nil] at ha
        cases c with
        | none => exact .inl (Option.some.inj ha).symm
        | some i =>
          obtain ⟨c, hc, hid⟩ := Option.map_eq_some_iff.1 ha
          exact .inr (.inl ⟨c, List.mem_of_getElem? hc, hid⟩)
      | cons i path =>
        rw [idAt?_cons] at ha
        obtain ⟨sub, hsub, ha⟩ := Option.bind_eq_some_iff.1 ha
        have hmem := List.mem_of_getElem? hsub
        exact .inr (.inr ⟨sub, hmem, (ih sub hmem).2 ⟨_, ha⟩⟩)

end Group

/-- Where a node of the edited group stood before; none for a new node. Nodes behind a removed one moved up
by one. -/
def GroupEdit.origin (g : Group) : GroupEdit → Address → Option Address
  | addCondition, ⟨[], some i⟩ => if i < g.conditions.length then some ⟨[], some i⟩ else none
  | addSubGroup, ⟨i :: path, c⟩ => if i < g.groups.length then some ⟨i :: path, c⟩ else none
  | removeCondition index, ⟨[], some i⟩ => some ⟨[], some (if (i : Int) < index then i else i + 1)⟩
  | removeSubGroup index, ⟨i :: path, c⟩ => some ⟨(if (i : Int) < index then i else i + 1) :: path, c⟩
  | _, a => some a

/-- Where a node of a tree stood before the group at a path was edited. Nodes outside of that group did not
move. -/
def GroupEdit.originAt (e : GroupEdit) : List Int → Group → Address → Option Address
  | [], g, a => e.origin g a
  | _ :: _, _, ⟨[], c⟩ => some ⟨[], c⟩
  | index :: path, g, ⟨i :: rest, c⟩ =>
    if index = i then
      (g.groups[i]?).bind fun sub =>
        (e.originAt path sub ⟨rest, c⟩).map fun a => ⟨i :: a.path, a.condition⟩
    else some ⟨i :: rest, c⟩

/-- Where a node of the tree after a step stood before it. -/
def Step.origin (s : Step) (t : Group) : Address → Option Address :=
  s.edit.originAt s.path t

/-- Every node of `g'` that stood in `g` has kept its identifier, and every other one has a new one. -/
def Group.Traces (origin : Address → Option Address) (new : List String) (g g' : Group) : Prop :=
  ∀ a id, g'.idAt? a = some id →
    match origin a with
    | some b => g.idAt? b = some id
    | none => id ∈ new

/-! ## Edits of a group -/

namespace Group

variable (g : Group)

theorem traces_addCondition (catalogue : Catalogue) (id : String) :
    Traces (GroupEdit.addCondition.origin g) [id] g (g.addCondition catalogue id) := by
  rintro ⟨path, c⟩ found hfound
  cases path with
  | cons i path => exact hfound
  | nil =>
    cases c with
    | none => exact hfound
    | some i =>
      dsimp only [GroupEdit.origin]
      rw [idAt?_nil] at hfound
      dsimp only [ownId?, addCondition] at hfound
      by_cases hi : i < g.conditions.length
      · rw [List.getElem?_append_left hi] at hfound
        rw [if_pos hi]
        exact hfound
      · rw [List.getElem?_append_right (by omega)] at hfound
        rw [if_neg hi]
        obtain ⟨c, hc, rfl⟩ := Option.map_eq_some_iff.1 hfound
        rw [List.mem_singleton.1 (List.mem_of_getElem? hc)]
        exact List.mem_singleton.2 rfl

theorem traces_addSubGroup (catalogue : Catalogue) (id conditionId : String) :
    Traces (GroupEdit.addSubGroup.origin g) [id, conditionId] g
      (g.addSubGroup catalogue id conditionId) := by
  rintro ⟨path, c⟩ found hfound
  cases path with
  | nil => exact hfound
  | cons i path =>
    dsimp only [GroupEdit.origin]
    rw [idAt?_cons] at hfound
    dsimp only [addSubGroup] at hfound
    by_cases hi : i < g.groups.length
    · rw [List.getElem?_append_left hi] at hfound
      rw [if_pos hi]
      dsimp only
      rw [idAt?_cons]
      exact hfound
    · rw [List.getElem?_append_right (by omega)] at hfound
      rw [if_neg hi]
      obtain ⟨sub, hsub, hfound⟩ := Option.bind_eq_some_iff.1 hfound
      rw [List.mem_singleton.1 (List.mem_of_getElem? hsub)] at hfound
      exact mem_ids_iff.2 ⟨_, hfound⟩

/-- The index in a list with one item left out, as an index in the whole list. -/
theorem getElem?_eraseIdx_int {α : Type} (xs : List α) (k i : Nat) :
    (xs.eraseIdx k)[i]? = xs[if (i : Int) < k then i else i + 1]? := by
  rw [List.getElem?_eraseIdx]
  by_cases hi : i < k
  · rw [if_pos hi, if_pos (by omega)]
  · rw [if_neg hi, if_neg (by omega)]

theorem traces_removeCondition (k : Nat) :
    Traces ((GroupEdit.removeCondition k).origin g) [] g
      { g with conditions := g.conditions.eraseIdx k } := by
  rintro ⟨path, c⟩ found hfound
  cases path with
  | cons i path => exact hfound
  | nil =>
    cases c with
    | none => exact hfound
    | some i =>
      rw [idAt?_nil] at hfound
      dsimp only [ownId?] at hfound
      rw [getElem?_eraseIdx_int] at hfound
      exact hfound

theorem traces_removeSubGroup (k : Nat) :
    Traces ((GroupEdit.removeSubGroup k).origin g) [] g { g with groups := g.groups.eraseIdx k } := by
  rintro ⟨path, c⟩ found hfound
  cases path with
  | nil => exact hfound
  | cons i path =>
    rw [idAt?_cons] at hfound
    dsimp only at hfound
    rw [getElem?_eraseIdx_int] at hfound
    dsimp only [GroupEdit.origin]
    rw [idAt?_cons]
    exact hfound

theorem traces_editCondition {i : Nat} {c c' : Condition} (hc : g.conditions[i]? = some c)
    (hid : c'.id = c.id) : Traces some [] g { g with conditions := g.conditions.set i c' } := by
  rintro ⟨path, cond⟩ found hfound
  cases path with
  | cons j path => exact hfound
  | nil =>
    cases cond with
    | none => exact hfound
    | some j =>
      dsimp only
      rw [idAt?_nil] at hfound ⊢
      dsimp only [ownId?] at hfound ⊢
      by_cases hj : i = j
      · subst hj
        obtain ⟨hi, -⟩ := List.getElem?_eq_some_iff.1 hc
        rw [List.getElem?_set_self hi, Option.map_some, hid] at hfound
        rw [hc]
        exact hfound
      · rw [List.getElem?_set_ne hj] at hfound
        exact hfound

end Group

theorem GroupEdit.apply_traces {catalogue : Catalogue} {e : GroupEdit} {supply supply' : IdSupply}
    {g g' : Group} (h : e.apply catalogue supply g = some (g', supply')) :
    Group.Traces (e.origin g) (supply.drawn supply') g g' := by
  cases makes_of_apply h with
  | addCondition =>
    rw [IdSupply.drawn_one]
    exact g.traces_addCondition catalogue _
  | addSubGroup =>
    rw [IdSupply.drawn_two]
    exact g.traces_addSubGroup catalogue _ _
  | removeCondition i =>
    rw [IdSupply.drawn_self]
    exact g.traces_removeCondition i
  | removeSubGroup i =>
    rw [IdSupply.drawn_self]
    exact g.traces_removeSubGroup i
  | toggle =>
    rintro ⟨path, c⟩ found hfound
    cases path with
    | nil => cases c <;> exact hfound
    | cons i path => exact hfound
  | editCondition hc hc' =>
    rw [IdSupply.drawn_self]
    exact g.traces_editCondition hc (ConditionEdit.apply_id hc')

/-! ## Edits at a path -/

theorem Group.traces_updateAt {e : GroupEdit} {new : List String} {root root' g g' : Group}
    {path : List Int} (hg : root.getAt path = .ok g) (htraces : Traces (e.origin g) new g g')
    (h : root.updateAt (fun _ => .ok g') path = .ok root') :
    Traces (e.originAt path root) new root root' := by
  induction path generalizing root root' with
  | nil =>
    cases hg
    cases h
    exact htraces
  | cons index path ih =>
    obtain ⟨i, sub, hindex, hsub, hg⟩ := getAt_cons.1 hg
    obtain ⟨i', sub', edited, hindex', hsub', hedited, rfl⟩ := updateAt_cons.1 h
    obtain rfl := Int.ofNat_inj.1 (hindex.symm.trans hindex')
    cases hsub.symm.trans hsub'
    have hbelow := ih hg hedited
    rintro ⟨apath, c⟩ found hfound
    cases apath with
    | nil => exact hfound
    | cons j rest =>
      rw [idAt?_cons] at hfound
      dsimp only at hfound
      dsimp only [GroupEdit.originAt]
      by_cases hj : i = j
      · subst hj
        obtain ⟨hi, -⟩ := List.getElem?_eq_some_iff.1 hsub
        rw [List.getElem?_set_self hi, Option.bind_some] at hfound
        have hnode := hbelow _ _ hfound
        rw [if_pos hindex, hsub, Option.bind_some]
        cases horigin : e.originAt path sub ⟨rest, c⟩ with
        | none =>
          rw [horigin] at hnode
          exact hnode
        | some b =>
          rw [horigin] at hnode
          dsimp only [Option.map_some]
          rw [idAt?_cons, hsub]
          exact hnode
      · rw [List.getElem?_set_ne hj] at hfound
        rw [if_neg (by omega)]
        dsimp only
        rw [idAt?_cons]
        exact hfound

/-- Every node of the tree after a step stood in the tree before it and has kept its identifier, or has an
identifier that the step drew. -/
theorem Step.run_traces {catalogue : Catalogue} {s : Step} {d d' : Draft}
    (h : s.run catalogue d = some d') :
    Group.Traces (s.origin d.tree) (d.supply.drawn d'.supply) d.tree d'.tree := by
  obtain ⟨g, g', supply, hg, happly, htree, rfl⟩ := Step.run_eq_some.1 h
  exact Group.traces_updateAt hg (GroupEdit.apply_traces happly) htree

end Segmentation
