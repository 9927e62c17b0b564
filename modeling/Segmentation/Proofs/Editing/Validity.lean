import Segmentation.Catalogue.Contact
import Segmentation.Proofs.Catalogue.Operators
import Segmentation.Proofs.Editing.Survival

/-!
# Editing keeps trees valid

* `ConditionEdit.apply_admissible`: if a catalogue lists the names that dates have for its operators, every
  edit leaves a condition with an operator that its field allows.
* `Draft.Sound`: what a run of steps keeps.
* `Draft.after_start_valid`: no run of steps brings an error into a tree or uses an identifier twice.
-/

namespace Segmentation

variable {catalogue : Catalogue}

/-! ## Conditions -/

theorem Condition.admissible_default (h : catalogue.DatesNamed) (id field : String)
    (value value2 : Operand) :
    Admissible catalogue ⟨id, field, .known (catalogue.defaultOperator field), value, value2⟩ :=
  ⟨_, rfl, h.isSome_defaultOperator field⟩

theorem ConditionEdit.apply_admissible (h : catalogue.DatesNamed) {edit : ConditionEdit} {c c' : Condition}
    (hc : c.Admissible catalogue) (hedit : edit.apply catalogue c = some c') :
    c'.Admissible catalogue := by
  cases makes_of_apply hedit with
  | field key => exact Condition.admissible_default h _ key _ _
  | operator _ hcanonical =>
    refine ⟨_, rfl, ?_⟩
    dsimp only
    rw [Catalogue.canonicalOperator?_canonical hcanonical]
    rfl
  | value _ => exact hc
  | value2 _ => exact hc
  | option choice => exact hc

/-! ## Runs -/

namespace Draft

/-- What every step keeps: the fields of all conditions allow their operators, and identifiers are different
and come from the supply. -/
structure Sound (catalogue : Catalogue) (d : Draft) : Prop where
  admissible : d.tree.EachCondition (Condition.Admissible catalogue)
  owned : d.Owned

theorem Sound.start (h : catalogue.DatesNamed) (supply : IdSupply) :
    (Draft.start catalogue supply).Sound catalogue where
  admissible := Group.eachCondition_create (Condition.admissible_default h _ _ _ _)
  owned := Owned.start catalogue supply

theorem Sound.run (h : catalogue.DatesNamed) {s : Step} {d d' : Draft} (hd : d.Sound catalogue)
    (hs : s.run catalogue d = some d') : d'.Sound catalogue where
  admissible := Step.run_eachCondition (fun id => Condition.admissible_default h id _ _ _)
    (fun _ _ _ _ _ hc hedit => ConditionEdit.apply_admissible h hc hedit) hs hd.admissible
  owned := hd.owned.run hs

/-- What every step that is not refused keeps, a run keeps. -/
theorem after_induct {p : Draft → Prop} (hstep : ∀ s d d', Step.run catalogue s d = some d' → p d → p d')
    {d : Draft} (hd : p d) (steps : List Step) : p (d.after catalogue steps) := by
  induction steps generalizing d with
  | nil => exact hd
  | cons s steps ih =>
    change p (((s.run catalogue d).getD d).after catalogue steps)
    refine ih ?_
    cases hs : s.run catalogue d with
    | none => exact hd
    | some d' => exact hstep s d d' hs hd

theorem next_le_after (d : Draft) (steps : List Step) :
    d.supply.next ≤ (d.after catalogue steps).supply.next :=
  after_induct (p := fun d' => d.supply.next ≤ d'.supply.next)
    (fun _ _ _ hs hle => Nat.le_trans hle (Step.run_next_le hs)) (Nat.le_refl _) steps

theorem Sound.after (h : catalogue.DatesNamed) {d : Draft} (hd : d.Sound catalogue)
    (steps : List Step) : (d.after catalogue steps).Sound catalogue :=
  after_induct (fun _ _ _ hs hd => hd.run h hs) hd steps

/-- An identifier that is drawn occurs in no tree of the run so far. -/
theorem notMem_ids_of_mem_drawn (h : catalogue.DatesNamed) {d : Draft} (hd : d.Sound catalogue)
    (steps : List Step) {supply' : IdSupply} {id : String}
    (hid : id ∈ (d.after catalogue steps).supply.drawn supply') (n : Nat) :
    id ∉ (d.after catalogue (steps.take n)).tree.ids := by
  intro hmem
  have hused := (hd.after h (steps.take n)).owned.used id hmem
  refine (IdSupply.mem_drawn hid).2 (hused.mono ?_)
  have hlater : (d.after catalogue (steps.take n)).supply.next ≤
      ((d.after catalogue (steps.take n)).after catalogue (steps.drop n)).supply.next :=
    next_le_after _ _
  rwa [← after_append, List.take_append_drop] at hlater

/-- Start with a new tree and edit it in any number of steps, of which some may be refused. Validation
reports no error, and the identifiers of all nodes are different. In one more step, nodes that stay keep
their identifiers, and any other node has one that occurred in no tree of the run. -/
theorem after_start_valid (h : catalogue.DatesNamed) (supply : IdSupply) (steps : List Step) :
    let d := (Draft.start catalogue supply).after catalogue steps
    (∀ issue ∈ d.tree.validate catalogue, issue.severity ≠ .error) ∧ d.tree.ids.Nodup ∧
      ∀ (s : Step) (d' : Draft), s.run catalogue d = some d' →
        ∀ (a : Address) (id : String), d'.tree.idAt? a = some id →
          match s.origin d.tree a with
          | some b => d.tree.idAt? b = some id
          | none => ∀ n, id ∉ ((Draft.start catalogue supply).after catalogue (steps.take n)).tree.ids := by
  intro d
  have hstart := Sound.start h supply
  have hd : d.Sound catalogue := hstart.after h steps
  refine ⟨Group.validate_severity hd.owned.nodup hd.admissible, hd.owned.nodup, ?_⟩
  intro s d' hs a id ha
  have htrace := Step.run_traces hs a id ha
  cases horigin : s.origin d.tree a with
  | some b =>
    rw [horigin] at htrace
    exact htrace
  | none =>
    rw [horigin] at htrace
    exact notMem_ids_of_mem_drawn h hstart steps htrace

/-- For contacts: a sub-group is added and toggled, and its condition is moved to a date. -/
theorem after_start_valid_contact :
    let steps : List Step := [⟨[], .addSubGroup⟩, ⟨[0], .toggle⟩,
      ⟨[0], .editCondition 0 (.field "created_at")⟩, ⟨[7], .addCondition⟩]
    let d := (Draft.start Catalogue.contact ⟨0⟩).after Catalogue.contact steps
    Catalogue.contact.DatesNamed ∧ d.tree.groups.length = 1 ∧
      (∀ issue ∈ d.tree.validate Catalogue.contact, issue.severity ≠ .error) ∧ d.tree.ids.Nodup := by
  intro steps d
  have hdates : Catalogue.contact.DatesNamed := by constructor <;> decide
  have hvalid := after_start_valid hdates ⟨0⟩ steps
  exact ⟨hdates, rfl, hvalid.1, hvalid.2.1⟩

end Draft

end Segmentation
