import Segmentation.Editing.Condition
import Segmentation.Proofs.Editing.Path

/-!
# Edits as data

* `ConditionEdit`, `GroupEdit`: the edits of a condition and of a group, with the input they take.
* `ConditionEdit.Makes`, `GroupEdit.Makes`: what an accepted edit makes of a condition and of a group.
* `Step`: an edit of the group at a path. It draws the identifiers of new nodes from a supply, and a step
  that is refused changes nothing.
* `Draft.after`: what a run of steps makes of a tree.
-/

namespace Segmentation

/-- An edit of a condition. -/
inductive ConditionEdit where
  | field (key : String)
  | operator (name : String)
  | value (raw : Value)
  | value2 (raw : Value)
  | option (choice : String)

/-- The edited condition; none if the edit is refused. -/
def ConditionEdit.apply (catalogue : Catalogue) : ConditionEdit → Condition → Option Condition
  | field key, c => some (c.changeField catalogue key)
  | operator name, c => (c.changeOperator catalogue name).toOption
  | value raw, c => (c.setValue catalogue raw).toOption
  | value2 raw, c => (c.setValue2 catalogue raw).toOption
  | option choice, c => some (c.toggleOption choice)

/-- An edit of a group. A condition is edited where it stands. -/
inductive GroupEdit where
  | addCondition
  | addSubGroup
  | removeCondition (index : Int)
  | removeSubGroup (index : Int)
  | toggle
  | editCondition (index : Int) (edit : ConditionEdit)

/-- The group with the condition at an index edited; none if there is no such condition or the edit is
refused. -/
def Group.editCondition (catalogue : Catalogue) (index : Int) (edit : ConditionEdit) (g : Group) :
    Option Group := do
  let (_, c) ← (childAt .condition g.conditions index).toOption
  let c' ← edit.apply catalogue c
  (g.updateCondition index c').toOption

/-- The edited group and what is left of the supply; none if the edit is refused. -/
def GroupEdit.apply (catalogue : Catalogue) (supply : IdSupply) :
    GroupEdit → Group → Option (Group × IdSupply)
  | addCondition, g =>
    let (id, supply) := supply.fresh
    some (g.addCondition catalogue id, supply)
  | addSubGroup, g =>
    let (id, supply) := supply.fresh
    let (conditionId, supply) := supply.fresh
    some (g.addSubGroup catalogue id conditionId, supply)
  | removeCondition index, g => (g.removeCondition index).toOption.map (·, supply)
  | removeSubGroup index, g => (g.removeSubGroup index).toOption.map (·, supply)
  | toggle, g => some (g.toggle, supply)
  | editCondition index edit, g => (g.editCondition catalogue index edit).map (·, supply)

/-- An edit of the group at a path. -/
structure Step where
  path : List Int
  edit : GroupEdit

/-- A tree that is being edited, and the supply of identifiers for new nodes. -/
structure Draft where
  tree : Group
  supply : IdSupply

/-- The draft after a step; none if there is no group at the path or the edit is refused. -/
def Step.run (catalogue : Catalogue) (s : Step) (d : Draft) : Option Draft := do
  let g ← (d.tree.getAt s.path).toOption
  let (g', supply) ← s.edit.apply catalogue d.supply g
  let tree ← (d.tree.updateAt (fun _ => .ok g') s.path).toOption
  return ⟨tree, supply⟩

namespace Draft

/-- The tree with which the definition of a segment starts, with new identifiers. -/
def start (catalogue : Catalogue) (supply : IdSupply) : Draft :=
  let (id, supply) := supply.fresh
  let (conditionId, supply) := supply.fresh
  ⟨Group.initial catalogue id conditionId, supply⟩

/-- The draft after a run of steps; a step that is refused leaves it as it was. -/
def after (catalogue : Catalogue) (d : Draft) (steps : List Step) : Draft :=
  steps.foldl (fun d s => (s.run catalogue d).getD d) d

theorem after_append (catalogue : Catalogue) (d : Draft) (steps more : List Step) :
    d.after catalogue (steps ++ more) = (d.after catalogue steps).after catalogue more :=
  List.foldl_append

end Draft

/-! ## What an accepted edit is -/

/-- What an accepted edit makes of a condition. -/
inductive ConditionEdit.Makes (catalogue : Catalogue) (c : Condition) : ConditionEdit → Condition → Prop where
  | field (key : String) : Makes catalogue c (.field key) (c.changeField catalogue key)
  | operator {name : String} {named canonical : Operator} (hnamed : Operator.named? name = some named)
      (hcanonical : catalogue.canonicalOperator? c.field named = some canonical) :
      Makes catalogue c (.operator name)
        { c with operator := .known canonical, value := .text "", value2 := .null }
  | value {raw : Value} {o : Operand} (ho : c.coerce catalogue raw = .ok o) :
      Makes catalogue c (.value raw) { c with value := o }
  | value2 {raw : Value} {o : Operand} (ho : c.coerce catalogue raw = .ok o) :
      Makes catalogue c (.value2 raw) { c with value2 := if o = .text "" then .null else o }
  | option (choice : String) : Makes catalogue c (.option choice) (c.toggleOption choice)

theorem ConditionEdit.makes_of_apply {catalogue : Catalogue} {edit : ConditionEdit} {c c' : Condition}
    (h : edit.apply catalogue c = some c') : Makes catalogue c edit c' := by
  cases edit with
  | field key =>
    cases h
    exact .field key
  | operator name =>
    have h := toOption_eq_some.1 h
    unfold Condition.changeOperator at h
    split at h
    · rename_i canonical hfound
      cases h
      obtain ⟨named, hnamed, hcanonical⟩ := Option.bind_eq_some_iff.1 hfound
      exact .operator hnamed hcanonical
    · cases h
  | value raw =>
    obtain ⟨o, ho, h⟩ := bind_eq_ok.1 (toOption_eq_some.1 h)
    cases h
    exact .value ho
  | value2 raw =>
    obtain ⟨o, ho, h⟩ := bind_eq_ok.1 (toOption_eq_some.1 h)
    cases h
    exact .value2 ho
  | option choice =>
    cases h
    exact .option choice

namespace Group

variable {index : Int} {g g' : Group}

theorem removeCondition_eq_ok :
    g.removeCondition index = .ok g' ↔
      ∃ (i : Nat) (c : Condition), index = i ∧ g.conditions[i]? = some c ∧
        g' = { g with conditions := g.conditions.eraseIdx i } :=
  childAt_return_eq_ok

theorem removeSubGroup_eq_ok :
    g.removeSubGroup index = .ok g' ↔
      ∃ (i : Nat) (sub : Group), index = i ∧ g.groups[i]? = some sub ∧
        g' = { g with groups := g.groups.eraseIdx i } :=
  childAt_return_eq_ok

theorem updateCondition_eq_ok {c' : Condition} :
    g.updateCondition index c' = .ok g' ↔
      ∃ (i : Nat) (c : Condition), index = i ∧ g.conditions[i]? = some c ∧
        g' = { g with conditions := g.conditions.set i c' } :=
  childAt_return_eq_ok

theorem updateSubGroup_eq_ok {sub' : Group} :
    updateSubGroup index sub' g = .ok g' ↔
      ∃ (i : Nat) (sub : Group), index = i ∧ g.groups[i]? = some sub ∧
        g' = { g with groups := g.groups.set i sub' } :=
  childAt_return_eq_ok

theorem editCondition_eq_some {catalogue : Catalogue} {edit : ConditionEdit} :
    g.editCondition catalogue index edit = some g' ↔
      ∃ (i : Nat) (c c' : Condition), index = i ∧ g.conditions[i]? = some c ∧
        edit.apply catalogue c = some c' ∧ g' = { g with conditions := g.conditions.set i c' } := by
  unfold editCondition
  simp only [Option.bind_eq_bind, Option.bind_eq_some_iff, toOption_eq_some, Prod.exists,
    childAt_eq_ok, updateCondition_eq_ok]
  constructor
  · rintro ⟨i, c, ⟨hindex, hc⟩, c', hedit, i', -, hindex', -, rfl⟩
    obtain rfl := Int.ofNat_inj.1 (hindex.symm.trans hindex')
    exact ⟨i, c, c', hindex, hc, hedit, rfl⟩
  · rintro ⟨i, c, c', hindex, hc, hedit, rfl⟩
    exact ⟨i, c, ⟨hindex, hc⟩, c', hedit, i, c, hindex, hc, rfl⟩

end Group

/-- What an accepted edit makes of a group and of the supply. -/
inductive GroupEdit.Makes (catalogue : Catalogue) (supply : IdSupply) (g : Group) :
    GroupEdit → Group → IdSupply → Prop where
  | addCondition : Makes catalogue supply g .addCondition
      (g.addCondition catalogue (IdSupply.text supply.next)) ⟨supply.next + 1⟩
  | addSubGroup : Makes catalogue supply g .addSubGroup
      (g.addSubGroup catalogue (IdSupply.text supply.next) (IdSupply.text (supply.next + 1)))
      ⟨supply.next + 1 + 1⟩
  | removeCondition (i : Nat) : Makes catalogue supply g (.removeCondition i)
      { g with conditions := g.conditions.eraseIdx i } supply
  | removeSubGroup (i : Nat) : Makes catalogue supply g (.removeSubGroup i)
      { g with groups := g.groups.eraseIdx i } supply
  | toggle : Makes catalogue supply g .toggle g.toggle supply
  | editCondition {i : Nat} {edit : ConditionEdit} {c c' : Condition} (hc : g.conditions[i]? = some c)
      (hedit : edit.apply catalogue c = some c') : Makes catalogue supply g (.editCondition i edit)
      { g with conditions := g.conditions.set i c' } supply

theorem GroupEdit.makes_of_apply {catalogue : Catalogue} {e : GroupEdit} {supply supply' : IdSupply}
    {g g' : Group} (h : e.apply catalogue supply g = some (g', supply')) :
    Makes catalogue supply g e g' supply' := by
  cases e with
  | addCondition =>
    cases h
    exact .addCondition
  | addSubGroup =>
    cases h
    exact .addSubGroup
  | removeCondition index =>
    obtain ⟨g'', hremove, heq⟩ := Option.map_eq_some_iff.1 h
    cases heq
    obtain ⟨i, c, rfl, -, rfl⟩ := Group.removeCondition_eq_ok.1 (toOption_eq_some.1 hremove)
    exact .removeCondition i
  | removeSubGroup index =>
    obtain ⟨g'', hremove, heq⟩ := Option.map_eq_some_iff.1 h
    cases heq
    obtain ⟨i, sub, rfl, -, rfl⟩ := Group.removeSubGroup_eq_ok.1 (toOption_eq_some.1 hremove)
    exact .removeSubGroup i
  | toggle =>
    cases h
    exact .toggle
  | editCondition index edit =>
    obtain ⟨g'', hgroup, heq⟩ := Option.map_eq_some_iff.1 h
    cases heq
    obtain ⟨i, c, c', rfl, hc, hedit, rfl⟩ := Group.editCondition_eq_some.1 hgroup
    exact .editCondition hc hedit

theorem Step.run_eq_some {catalogue : Catalogue} {s : Step} {d d' : Draft} :
    s.run catalogue d = some d' ↔
      ∃ (g g' : Group) (supply : IdSupply), d.tree.getAt s.path = .ok g ∧
        s.edit.apply catalogue d.supply g = some (g', supply) ∧
        d.tree.updateAt (fun _ => .ok g') s.path = .ok d'.tree ∧ d'.supply = supply := by
  unfold Step.run
  simp only [Option.bind_eq_bind, Option.bind_eq_some_iff, toOption_eq_some, Prod.exists,
    Option.pure_def, Option.some.injEq]
  constructor
  · rintro ⟨g, hg, g', supply, hedit, tree, htree, rfl⟩
    exact ⟨g, g', supply, hg, hedit, htree, rfl⟩
  · rintro ⟨g, g', supply, hg, hedit, htree, rfl⟩
    exact ⟨g, hg, g', d'.supply, hedit, d'.tree, htree, rfl⟩

/-- At the path of a group, a step is refused only if its edit of the group is. -/
theorem Step.exists_run {catalogue : Catalogue} {s : Step} {d : Draft} {g g' : Group}
    {supply : IdSupply} (hg : d.tree.getAt s.path = .ok g)
    (hedit : s.edit.apply catalogue d.supply g = some (g', supply)) :
    ∃ d', s.run catalogue d = some d' := by
  have hupdate : ∃ tree, d.tree.updateAt (fun _ => .ok g') s.path = .ok tree :=
    Group.exists_updateAt hg rfl
  obtain ⟨tree, htree⟩ := hupdate
  exact ⟨⟨tree, supply⟩, Step.run_eq_some.2 ⟨g, g', supply, hg, hedit, htree, rfl⟩⟩

/-! ## Conditions under edits -/

section Conditions

variable {p : Condition → Prop} {g g' : Group} {catalogue : Catalogue}

theorem Group.eachCondition_create {connective : Connective} {id conditionId : String}
    (h : p (Condition.create catalogue conditionId)) :
    EachCondition p (create catalogue connective id conditionId) :=
  eachCondition_iff.2 ⟨fun c hc => List.mem_singleton.1 hc ▸ h, fun sub hsub => by cases hsub⟩

theorem Group.EachCondition.withConditions {conditions : List Condition} (hg : g.EachCondition p)
    (hconditions : ∀ c ∈ conditions, p c) : EachCondition p { g with conditions := conditions } :=
  eachCondition_iff.2 ⟨hconditions, (eachCondition_iff.1 hg).2⟩

theorem Group.EachCondition.withConditions_set {i : Nat} {c : Condition} (hg : g.EachCondition p)
    (hc : p c) : EachCondition p { g with conditions := g.conditions.set i c } := by
  refine hg.withConditions fun d hd => ?_
  rcases List.mem_or_eq_of_mem_set hd with hd | rfl
  · exact (eachCondition_iff.1 hg).1 d hd
  · exact hc

theorem Group.EachCondition.withGroups {groups : List Group} (hg : g.EachCondition p)
    (hgroups : ∀ sub ∈ groups, sub.EachCondition p) : EachCondition p { g with groups := groups } :=
  eachCondition_iff.2 ⟨(eachCondition_iff.1 hg).1, hgroups⟩

/-- What new conditions have and condition edits keep, group edits keep. -/
theorem GroupEdit.apply_eachCondition {e : GroupEdit} {supply supply' : IdSupply}
    (hnew : ∀ id, p (Condition.create catalogue id))
    (hedit : ∀ index edit, e = editCondition index edit →
      ∀ c c', p c → edit.apply catalogue c = some c' → p c')
    (h : e.apply catalogue supply g = some (g', supply')) (hg : g.EachCondition p) :
    g'.EachCondition p := by
  cases makes_of_apply h with
  | addCondition =>
    refine hg.withConditions fun c hc => ?_
    rcases List.mem_append.1 hc with hc | hc
    · exact (Group.eachCondition_iff.1 hg).1 c hc
    · exact List.mem_singleton.1 hc ▸ hnew _
  | addSubGroup =>
    refine hg.withGroups fun sub hsub => ?_
    rcases List.mem_append.1 hsub with hsub | hsub
    · exact (Group.eachCondition_iff.1 hg).2 sub hsub
    · exact List.mem_singleton.1 hsub ▸ Group.eachCondition_create (hnew _)
  | removeCondition i =>
    exact hg.withConditions fun c hc => (Group.eachCondition_iff.1 hg).1 c (List.mem_of_mem_eraseIdx hc)
  | removeSubGroup i =>
    exact hg.withGroups fun sub hsub =>
      (Group.eachCondition_iff.1 hg).2 sub (List.mem_of_mem_eraseIdx hsub)
  | toggle =>
    obtain ⟨hconditions, hgroups⟩ := Group.eachCondition_iff.1 hg
    exact Group.eachCondition_iff.2 ⟨hconditions, hgroups⟩
  | editCondition hc hc' =>
    have hold := (Group.eachCondition_iff.1 hg).1 _ (List.mem_of_getElem? hc)
    exact hg.withConditions_set (hedit _ _ rfl _ _ hold hc')

/-- What new conditions have and condition edits keep, steps keep. -/
theorem Step.run_eachCondition {s : Step} {d d' : Draft} (hnew : ∀ id, p (Condition.create catalogue id))
    (hedit : ∀ index edit, s.edit = .editCondition index edit →
      ∀ c c', p c → edit.apply catalogue c = some c' → p c')
    (h : s.run catalogue d = some d') (hd : d.tree.EachCondition p) : d'.tree.EachCondition p := by
  obtain ⟨g, g', supply, hg, happly, htree, -⟩ := Step.run_eq_some.1 h
  have hg' := GroupEdit.apply_eachCondition hnew hedit happly (hd.getAt hg)
  refine Group.EachCondition.updateAt (fun old new hnew' _ => ?_) htree hd
  cases hnew'
  exact hg'

end Conditions

end Segmentation
