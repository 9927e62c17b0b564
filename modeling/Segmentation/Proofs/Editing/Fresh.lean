import Mathlib.Data.List.Flatten
import Mathlib.Data.List.Nodup
import Segmentation.Proofs.Editing.Step
import Segmentation.Proofs.Identifier
import Segmentation.Proofs.Rule.Nodes

/-!
# Identifiers under edits

* `IdSupply.drawn`: the identifiers that lie between two states of a supply.
* `Regrows`: the nodes of one tree are some nodes of another and new ones with given identifiers.
* `Step.run_regrows`: a step keeps identifiers, drops some, and adds what it draws from the supply.
* `Draft.Owned`: the identifiers of a draft are different, and all were drawn from its supply.
-/

namespace Segmentation

/-! ## The supply -/

namespace IdSupply

/-- The identifiers that were drawn while one supply became another. -/
def drawn (supply supply' : IdSupply) : List String :=
  (List.range' supply.next (supply'.next - supply.next)).map text

/-- The identifier was drawn before the supply came to its present state. -/
def Used (supply : IdSupply) (id : String) : Prop :=
  ∃ n < supply.next, id = text n

theorem drawn_self (supply : IdSupply) : drawn supply supply = [] := by
  simp [drawn]

theorem drawn_one (supply : IdSupply) : drawn supply ⟨supply.next + 1⟩ = [text supply.next] := by
  simp [drawn]

theorem drawn_two (supply : IdSupply) :
    drawn supply ⟨supply.next + 1 + 1⟩ = [text supply.next, text (supply.next + 1)] := by
  have hcount : supply.next + 1 + 1 - supply.next = 2 := by omega
  rw [drawn, hcount]
  rfl

theorem mem_drawn {supply supply' : IdSupply} {id : String} (h : id ∈ drawn supply supply') :
    supply'.Used id ∧ ¬supply.Used id := by
  obtain ⟨n, hn, rfl⟩ := List.mem_map.1 h
  rw [List.mem_range'_1] at hn
  refine ⟨⟨n, by omega, rfl⟩, ?_⟩
  rintro ⟨m, hm, heq⟩
  have := text_injective heq
  omega

theorem nodup_drawn (supply supply' : IdSupply) : (drawn supply supply').Nodup :=
  List.Nodup.map text_injective List.nodup_range'

theorem Used.mono {supply supply' : IdSupply} (h : supply.next ≤ supply'.next) {id : String}
    (hid : supply.Used id) : supply'.Used id := by
  obtain ⟨n, hn, rfl⟩ := hid
  exact ⟨n, Nat.lt_of_lt_of_le hn h, rfl⟩

end IdSupply

/-! ## Trees -/

namespace Group

/-- The identifiers of `g'` are some of those of `g`, and new ones. -/
def Regrows (new : List String) (g g' : Group) : Prop :=
  ∃ kept, kept.Sublist g.ids ∧ g'.ids.Perm (kept ++ new)

theorem regrows_of_sublist {g g' : Group} (h : g'.ids.Sublist g.ids) : Regrows [] g g' :=
  ⟨g'.ids, h, by rw [List.append_nil]⟩

/-- The identifiers of a group around those of one of its sub-groups. -/
theorem exists_ids_around {outer sub : Group} {i : Nat} (hsub : outer.groups[i]? = some sub) :
    ∃ before after, outer.ids = before ++ (sub.ids ++ after) ∧ ∀ sub',
      ids { outer with groups := outer.groups.set i sub' } = before ++ (sub'.ids ++ after) := by
  obtain ⟨hi, hget⟩ := List.getElem?_eq_some_iff.1 hsub
  have hgroups : outer.groups = outer.groups.take i ++ sub :: outer.groups.drop (i + 1) := by
    rw [← hget, List.getElem_cons_drop hi, List.take_append_drop]
  refine ⟨outer.id :: (outer.conditions.map (·.id) ++ (outer.groups.take i).flatMap ids),
    (outer.groups.drop (i + 1)).flatMap ids, ?_, fun sub' => ?_⟩
  · have hflat := congrArg (List.flatMap ids) hgroups
    rw [List.flatMap_append, List.flatMap_cons] at hflat
    rw [ids_eq, hflat]
    simp only [List.cons_append, List.append_assoc]
  · rw [ids_eq]
    dsimp only
    rw [List.set_eq_take_append_cons_drop, if_pos hi, List.flatMap_append, List.flatMap_cons]
    simp only [List.cons_append, List.append_assoc]

theorem Regrows.lift {new : List String} (outer : Group) (i : Nat) (sub sub' : Group)
    (hsub : outer.groups[i]? = some sub) (h : Regrows new sub sub') :
    Regrows new outer { outer with groups := outer.groups.set i sub' } := by
  obtain ⟨kept, hkept, hperm⟩ := h
  obtain ⟨before, after, houter, hset⟩ := exists_ids_around hsub
  refine ⟨before ++ (kept ++ after), ?_, ?_⟩
  · rw [houter]
    exact (hkept.append_right after).append_left before
  · rw [hset sub', List.append_assoc]
    have hswap : (kept ++ new ++ after).Perm (kept ++ after ++ new) := by
      rw [List.append_assoc, List.append_assoc]
      exact List.perm_append_comm.append_left kept
    exact ((hperm.append_right after).trans hswap).append_left before

theorem Regrows.nodup {new : List String} {g g' : Group} (h : Regrows new g g') (hg : g.ids.Nodup)
    (hnew : new.Nodup) (hdisjoint : ∀ id ∈ new, id ∉ g.ids) : g'.ids.Nodup := by
  obtain ⟨kept, hkept, hperm⟩ := h
  rw [hperm.nodup_iff, List.nodup_append]
  refine ⟨hg.sublist hkept, hnew, ?_⟩
  rintro id hid _ hid' rfl
  exact hdisjoint id hid' (hkept.subset hid)

theorem Regrows.mem {new : List String} {g g' : Group} (h : Regrows new g g') {id : String}
    (hid : id ∈ g'.ids) : id ∈ g.ids ∨ id ∈ new := by
  obtain ⟨kept, hkept, hperm⟩ := h
  rcases List.mem_append.1 (hperm.mem_iff.1 hid) with hid | hid
  · exact .inl (hkept.subset hid)
  · exact .inr hid

end Group

/-! ## Edits -/

theorem ConditionEdit.apply_id {catalogue : Catalogue} {edit : ConditionEdit} {c c' : Condition}
    (h : edit.apply catalogue c = some c') : c'.id = c.id := by
  cases makes_of_apply h <;> rfl

namespace GroupEdit

variable {catalogue : Catalogue} {e : GroupEdit} {supply supply' : IdSupply} {g g' : Group}

/-- An edit takes identifiers from the supply and gives none back. -/
theorem apply_next_le (h : e.apply catalogue supply g = some (g', supply')) :
    supply.next ≤ supply'.next := by
  cases makes_of_apply h with
  | addCondition => exact Nat.le_succ _
  | addSubGroup => exact Nat.le_add_right _ 2
  | _ => exact Nat.le_refl _

/-- An edit keeps identifiers, drops some, and adds what it draws. -/
theorem apply_regrows (h : e.apply catalogue supply g = some (g', supply')) :
    Group.Regrows (supply.drawn supply') g g' := by
  cases makes_of_apply h with
  | addCondition =>
    rw [IdSupply.drawn_one]
    refine ⟨g.ids, List.Sublist.refl _, ?_⟩
    rw [Group.ids_eq, Group.ids_eq g]
    simp only [Group.addCondition, List.map_append, List.cons_append, List.append_assoc]
    exact (List.perm_append_comm.append_left _).cons _
  | addSubGroup =>
    rw [IdSupply.drawn_two]
    refine ⟨g.ids, List.Sublist.refl _, ?_⟩
    rw [Group.ids_eq, Group.ids_eq g]
    simp [Group.addSubGroup, Group.ids_eq, Group.create, Condition.create]
  | removeCondition i =>
    rw [IdSupply.drawn_self]
    refine Group.regrows_of_sublist ?_
    rw [Group.ids_eq, Group.ids_eq g]
    exact (((List.eraseIdx_sublist _ i).map _).append_right _).cons_cons _
  | removeSubGroup i =>
    rw [IdSupply.drawn_self]
    refine Group.regrows_of_sublist ?_
    rw [Group.ids_eq, Group.ids_eq g]
    exact (((List.eraseIdx_sublist _ i).flatMap _).append_left _).cons_cons _
  | toggle =>
    rw [IdSupply.drawn_self]
    refine Group.regrows_of_sublist ?_
    rw [Group.ids_eq, Group.ids_eq g]
    exact List.Sublist.refl _
  | @editCondition i edit c c' hc hc' =>
    rw [IdSupply.drawn_self]
    refine Group.regrows_of_sublist ?_
    have hids : (g.conditions.map (·.id)).set i c.id = g.conditions.map (·.id) := by
      obtain ⟨hi, hget⟩ := List.getElem?_eq_some_iff.1 hc
      rw [← List.map_set, ← hget, List.set_getElem_self]
    rw [Group.ids_eq, Group.ids_eq g, List.map_set, ConditionEdit.apply_id hc', hids]

end GroupEdit

/-! ## Steps -/

variable {catalogue : Catalogue} {s : Step} {d d' : Draft}

theorem Step.run_next_le (h : s.run catalogue d = some d') : d.supply.next ≤ d'.supply.next := by
  obtain ⟨g, g', supply, -, happly, -, rfl⟩ := Step.run_eq_some.1 h
  exact GroupEdit.apply_next_le happly

theorem Step.run_regrows (h : s.run catalogue d = some d') :
    Group.Regrows (d.supply.drawn d'.supply) d.tree d'.tree := by
  obtain ⟨g, g', supply, hg, happly, htree, rfl⟩ := Step.run_eq_some.1 h
  exact Group.updateAt_lift Group.Regrows.lift hg htree rfl (GroupEdit.apply_regrows happly)

/-- The identifiers of the draft are different, and all of them were drawn from its supply. -/
structure Draft.Owned (d : Draft) : Prop where
  nodup : d.tree.ids.Nodup
  used : ∀ id ∈ d.tree.ids, d.supply.Used id

namespace Draft.Owned

theorem run (hd : d.Owned) (h : s.run catalogue d = some d') : d'.Owned := by
  have hregrows := Step.run_regrows h
  refine ⟨hregrows.nodup hd.nodup (IdSupply.nodup_drawn _ _) fun id hid hmem => ?_, fun id hid => ?_⟩
  · exact (IdSupply.mem_drawn hid).2 (hd.used id hmem)
  · rcases hregrows.mem hid with hid | hid
    · exact (hd.used id hid).mono (Step.run_next_le h)
    · exact (IdSupply.mem_drawn hid).1

theorem start (catalogue : Catalogue) (supply : IdSupply) : (Draft.start catalogue supply).Owned := by
  have hids : (Draft.start catalogue supply).tree.ids = supply.drawn ⟨supply.next + 1 + 1⟩ := by
    rw [IdSupply.drawn_two]
    rfl
  constructor
  · rw [hids]
    exact IdSupply.nodup_drawn _ _
  · intro id hid
    rw [hids] at hid
    exact (IdSupply.mem_drawn hid).1

end Draft.Owned

end Segmentation
