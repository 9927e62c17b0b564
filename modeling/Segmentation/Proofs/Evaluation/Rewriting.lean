import Segmentation.Proofs.Evaluation.Monotone

/-!
# Ways to write a tree differently

* `Group.Rewrite`: children in another order, a sub-group dissolved into a group with the same connective, the
  other connective over a single child, and a child listed twice.
* `Group.Rewrite.holds_iff`: the group still holds for the same records.
* `Evaluator.evaluate_rewrite`: so does every tree in which a group is rewritten, at any depth.
-/

namespace Segmentation

open Calendar

namespace Group

/-- The second group is the first one in other words. Where children join a group, they may come to stand
anywhere in it. -/
inductive Rewrite : Group → Group → Prop where
  /-- The children stand in another order. -/
  | permute {id : String} {connective : Connective} {conditions conditions' : List Condition}
      {groups groups' : List Group} (hconditions : conditions.Perm conditions')
      (hgroups : groups.Perm groups') :
      Rewrite ⟨id, connective, conditions, groups⟩ ⟨id, connective, conditions', groups'⟩
  /-- The children of a sub-group with the same connective stand in its place. -/
  | inline {g sub : Group} {rest groups' : List Group} {conditions' : List Condition}
      (hsub : g.groups.Perm (sub :: rest)) (hsame : sub.connective = g.connective)
      (hconditions : (g.conditions ++ sub.conditions).Perm conditions')
      (hgroups : (rest ++ sub.groups).Perm groups') :
      Rewrite g { g with conditions := conditions', groups := groups' }
  /-- The only child stands under the other connective. -/
  | toggle {g : Group} (hchild : g.conditions.length + g.groups.length = 1) : Rewrite g g.toggle
  /-- A condition stands there once more. -/
  | repeatCondition {g : Group} {c : Condition} {conditions' : List Condition} (hc : c ∈ g.conditions)
      (hconditions : (c :: g.conditions).Perm conditions') :
      Rewrite g { g with conditions := conditions' }
  /-- A sub-group stands there once more. -/
  | repeatGroup {g sub : Group} {groups' : List Group} (hsub : sub ∈ g.groups)
      (hgroups : (sub :: g.groups).Perm groups') : Rewrite g { g with groups := groups' }

variable {catalogue : Catalogue} {now : DateTime} {record : Value} {g g' : Group}

/-! ## Groups with the same children -/

/-- What a group holds for depends only on its connective and on which children it has. -/
theorem Extends.holds_iff (h : g.Extends g') (hback : g'.Extends g) :
    g'.holds catalogue now record = true ↔ g.holds catalogue now record = true := by
  have hsame : g'.connective = g.connective := h.connective
  cases hconnective : g.connective with
  | and => exact ⟨h.holds_and hconnective, hback.holds_and (hsame.trans hconnective)⟩
  | or => exact ⟨hback.holds_or (hsame.trans hconnective), h.holds_or hconnective⟩

theorem holds_permuted {id : String} {connective : Connective} {conditions conditions' : List Condition}
    {groups groups' : List Group} (hconditions : conditions.Perm conditions')
    (hgroups : groups.Perm groups') :
    holds catalogue now record ⟨id, connective, conditions', groups'⟩ = true ↔
      holds catalogue now record ⟨id, connective, conditions, groups⟩ = true :=
  Extends.holds_iff ⟨rfl, hconditions.subset, hgroups.subset⟩
    ⟨rfl, hconditions.symm.subset, hgroups.symm.subset⟩

/-! ## Sub-groups with the same connective -/

/-- A sub-group says of its children what the group around it would say of them. -/
theorem holds_inlined {id inner : String} {connective : Connective}
    {conditions innerConditions : List Condition} {rest innerGroups : List Group} :
    holds catalogue now record
        ⟨id, connective, conditions ++ innerConditions, rest ++ innerGroups⟩ = true ↔
      holds catalogue now record
        ⟨id, connective, conditions, ⟨inner, connective, innerConditions, innerGroups⟩ :: rest⟩ = true := by
  cases connective with
  | and =>
    rw [holds_and, holds_and, List.forall_mem_append, List.forall_mem_append, List.forall_mem_cons, holds_and]
    constructor
    · rintro ⟨⟨hown, hinner⟩, hrest, hgroups⟩
      exact ⟨hown, ⟨hinner, hgroups⟩, hrest⟩
    · rintro ⟨hown, ⟨hinner, hgroups⟩, hrest⟩
      exact ⟨⟨hown, hinner⟩, hrest, hgroups⟩
  | or =>
    rw [holds_or, holds_or, List.exists_mem_cons_iff, holds_or]
    simp only [List.mem_append, or_and_right, exists_or]
    constructor
    · rintro ((hown | hinner) | hrest | hgroups)
      · exact .inl hown
      · exact .inr (.inl (.inl hinner))
      · exact .inr (.inr hrest)
      · exact .inr (.inl (.inr hgroups))
    · rintro (hown | (hinner | hgroups) | hrest)
      · exact .inl (.inl hown)
      · exact .inl (.inr hinner)
      · exact .inr (.inr hgroups)
      · exact .inr (.inl hrest)

/-! ## Single children -/

/-- Over a single child both connectives say the same. -/
theorem holds_toggle_of_single (hchild : g.conditions.length + g.groups.length = 1) :
    g.toggle.holds catalogue now record = true ↔ g.holds catalogue now record = true := by
  obtain ⟨id, connective, conditions, groups⟩ := g
  dsimp only at hchild
  have hand : holds catalogue now record ⟨id, .and, conditions, groups⟩ = true ↔
      holds catalogue now record ⟨id, .or, conditions, groups⟩ = true := by
    rw [holds_and, holds_or]
    cases conditions with
    | nil =>
      obtain ⟨sub, rfl⟩ : ∃ sub, groups = [sub] := List.length_eq_one_iff.1 (by simpa using hchild)
      simp
    | cons c conditions =>
      rw [List.length_cons] at hchild
      have hconditions : conditions = [] := List.length_eq_zero_iff.1 (by omega)
      have hgroups : groups = [] := List.length_eq_zero_iff.1 (by omega)
      simp [hconditions, hgroups]
  cases connective with
  | and => exact hand.symm
  | or => exact hand

/-! ## Rewriting a group -/

/-- A group in other words holds for the same records. -/
theorem Rewrite.holds_iff (h : g.Rewrite g') :
    g'.holds catalogue now record = true ↔ g.holds catalogue now record = true := by
  cases h with
  | permute hconditions hgroups => exact holds_permuted hconditions hgroups
  | @inline g sub rest groups' conditions' hsub hsame hconditions hgroups =>
    obtain ⟨id, connective, conditions, groups⟩ := g
    obtain ⟨inner, connective', innerConditions, innerGroups⟩ := sub
    cases hsame
    calc holds catalogue now record ⟨id, connective, conditions', groups'⟩ = true
        ↔ holds catalogue now record
            ⟨id, connective, conditions ++ innerConditions, rest ++ innerGroups⟩ = true :=
          holds_permuted hconditions hgroups
      _ ↔ holds catalogue now record
            ⟨id, connective, conditions, ⟨inner, connective, innerConditions, innerGroups⟩ :: rest⟩ = true :=
          holds_inlined
      _ ↔ holds catalogue now record ⟨id, connective, conditions, groups⟩ = true :=
          holds_permuted (List.Perm.refl _) hsub
  | toggle hchild => exact holds_toggle_of_single hchild
  | @repeatCondition g c conditions' hc hconditions =>
    have hmore : c :: g.conditions ⊆ g.conditions :=
      List.cons_subset.2 ⟨hc, List.Subset.refl _⟩
    exact Extends.holds_iff ⟨rfl, fun d hd => hconditions.subset (List.mem_cons_of_mem _ hd), fun _ h => h⟩
      ⟨rfl, fun d hd => hmore (hconditions.symm.subset hd), fun _ h => h⟩
  | @repeatGroup g sub groups' hsub hgroups =>
    have hmore : sub :: g.groups ⊆ g.groups :=
      List.cons_subset.2 ⟨hsub, List.Subset.refl _⟩
    exact Extends.holds_iff ⟨rfl, fun _ h => h, fun s hs => hgroups.subset (List.mem_cons_of_mem _ hs)⟩
      ⟨rfl, fun _ h => h, fun s hs => hmore (hgroups.symm.subset hs)⟩

end Group

namespace Evaluator

/-- In every tree a group at any depth can be rewritten, and the tree still holds for the same records at
every reference time. -/
theorem evaluate_rewrite (e : Evaluator) (record : Value) {t g g' : Group} {path : List Int}
    (hg : t.getAt path = .ok g) (h : g.Rewrite g') :
    ∃ t', t.updateAt (fun _ => .ok g') path = .ok t' ∧ e.evaluate t' record = e.evaluate t record := by
  have hupdate : ∃ t', t.updateAt (fun _ => .ok g') path = .ok t' :=
    Group.exists_updateAt hg rfl
  obtain ⟨t', ht'⟩ := hupdate
  refine ⟨t', ht', ?_⟩
  have hholds : t'.holds e.catalogue e.now.1 record = true ↔ t.holds e.catalogue e.now.1 record = true := by
    refine Group.updateAt_lift (R := fun g g' => g'.holds e.catalogue e.now.1 record = true ↔
      g.holds e.catalogue e.now.1 record = true) ?_ hg ht' rfl h.holds_iff
    intro outer i sub sub' hsub hsame
    exact ⟨Group.holds_of_set hsub hsame.1, Group.holds_set hsub hsame.2⟩
  exact Prod.ext (Bool.eq_iff_iff.2 hholds) rfl

/-- Below an OR group with an unknown operator: the empty sub-group of an AND group disappears. -/
theorem evaluate_rewrite_empty_subGroup :
    let c : Condition := ⟨"c", "tags", .unknown "has", .text "vip", .null⟩
    let d : Condition := ⟨"d", "lead_score", .known .greaterThan, .int 3, .null⟩
    let g : Group := ⟨"g", .and, [d], [⟨"none", .and, [], []⟩, ⟨"h", .or, [c, d], []⟩]⟩
    let g' : Group := ⟨"g", .and, [d], [⟨"h", .or, [c, d], []⟩]⟩
    let t : Group := ⟨"t", .or, [c], [g]⟩
    let e : Evaluator := ⟨.contact, .system, default⟩
    let record : Value := .ofFields [("lead_score", .int 5)]
    (t.getAt [0] = .ok g ∧ g.Rewrite g') ∧
      ∃ t', t.updateAt (fun _ => .ok g') [0] = .ok t' ∧ (e.evaluate t' record).1 = true := by
  intro c d g g' t e record
  have hg : t.getAt [0] = .ok g := rfl
  have h : g.Rewrite g' :=
    @Group.Rewrite.inline g ⟨"none", .and, [], []⟩ [⟨"h", .or, [c, d], []⟩] _ _ (List.Perm.refl _) rfl
      (List.Perm.refl _) (List.Perm.refl _)
  obtain ⟨t', ht', hsame⟩ := evaluate_rewrite e record hg h
  refine ⟨⟨hg, h⟩, t', ht', ?_⟩
  rw [hsame]
  decide +kernel

end Evaluator

end Segmentation
