import Segmentation.Evaluation.Audience
import Segmentation.Proofs.Catalogue.Operators
import Segmentation.Proofs.Rule.Nodes

/-!
# Verdicts on conditions

* `Verdict.isRefusal`: the condition was turned down on its operator, before any value was looked at.
* `Condition.isRefusal_verdict`: so is every condition whose operator the catalogue does not allow, and no
  other one.
* `Condition.verdict_of_canonical`: any other condition gets the answer of its operator.
* `Condition.holds_iff_apply`: so a condition holds if its operator is allowed and answers so.
-/

namespace Segmentation

open Calendar

namespace Verdict

/-- The condition is turned down on its operator alone. -/
def isRefusal : Verdict → Bool
  | unknownOperator _ | notAllowed _ _ => true
  | failed _ | decided _ => false

/-- The verdict on a condition whose operator was applied. -/
def ofAnswer : Except Failure Bool → Verdict
  | .ok answer => decided answer
  | .error cause => failed cause

@[simp] theorem isRefusal_ofAnswer (answer : Except Failure Bool) :
    (ofAnswer answer).isRefusal = false := by
  cases answer <;> rfl

@[simp] theorem holds_ofAnswer (answer : Except Failure Bool) :
    (ofAnswer answer).holds = true ↔ answer = .ok true := by
  cases answer with
  | error cause => simp [ofAnswer, holds]
  | ok b => simp [ofAnswer, holds]

theorem holds_of_isRefusal {v : Verdict} (h : v.isRefusal = true) : v.holds = false := by
  cases v with
  | unknownOperator name => rfl
  | notAllowed operator type => rfl
  | failed cause => cases h
  | decided answer => cases h

end Verdict

namespace Condition

variable {catalogue : Catalogue} {now : DateTime} {record : Value} {c : Condition}

theorem admitted_eq_ok {canonical : Operator} :
    c.admitted catalogue = .ok canonical ↔ ∃ operator, c.operator = .known operator ∧
      catalogue.canonicalOperator? c.field operator = some canonical := by
  unfold admitted
  cases c.operator with
  | unknown name => simp
  | known operator => cases hcanonical : catalogue.canonicalOperator? c.field operator <;> simp [hcanonical]

theorem admissible_iff : c.Admissible catalogue ↔ ∃ canonical, c.admitted catalogue = .ok canonical := by
  simp only [Admissible, admitted_eq_ok, Option.isSome_iff_exists]
  constructor
  · rintro ⟨operator, hoperator, canonical, hcanonical⟩
    exact ⟨canonical, operator, hoperator, hcanonical⟩
  · rintro ⟨canonical, operator, hoperator, hcanonical⟩
    exact ⟨operator, hoperator, canonical, hcanonical⟩

/-- Whether a condition is admitted depends on its field and its operator. -/
theorem admitted_congr {c' : Condition} (hfield : c'.field = c.field) (hoperator : c'.operator = c.operator) :
    c'.admitted catalogue = c.admitted catalogue := by
  unfold admitted
  rw [hoperator, hfield]

/-- A condition that is not admitted is turned down on its operator. -/
theorem isRefusal_of_admitted {refusal : Verdict} (h : c.admitted catalogue = .error refusal) :
    refusal.isRefusal = true := by
  unfold admitted at h
  split at h
  · cases h
    rfl
  · split at h <;> cases h
    rfl

theorem verdict_of_admitted {canonical : Operator} (h : c.admitted catalogue = .ok canonical) :
    c.verdict catalogue now record =
      .ofAnswer (Comparison.apply canonical (catalogue.fieldType c.field) (record.resolve c.field) c.value
        c.value2 now) := by
  rw [verdict, h]
  dsimp only
  cases Comparison.apply canonical (catalogue.fieldType c.field) (record.resolve c.field) c.value
    c.value2 now with
  | error cause => rfl
  | ok answer => rfl

/-- The verdict on a condition whose operator the catalogue knows under one name is the answer of that
operator. -/
theorem verdict_of_canonical {operator canonical : Operator} (hoperator : c.operator = .known operator)
    (hcanonical : catalogue.canonicalOperator? c.field operator = some canonical) :
    c.verdict catalogue now record =
      .ofAnswer (Comparison.apply canonical (catalogue.fieldType c.field) (record.resolve c.field) c.value
        c.value2 now) :=
  verdict_of_admitted (admitted_eq_ok.2 ⟨operator, hoperator, hcanonical⟩)

/-- A condition is turned down on its operator exactly if the catalogue does not allow the operator. -/
theorem isRefusal_verdict :
    (c.verdict catalogue now record).isRefusal = true ↔ ¬ c.Admissible catalogue := by
  rw [admissible_iff]
  cases hadmitted : c.admitted catalogue with
  | error refusal =>
    have hverdict : c.verdict catalogue now record = refusal := by rw [verdict, hadmitted]
    simp [hverdict, isRefusal_of_admitted hadmitted]
  | ok canonical => simp [verdict_of_admitted hadmitted]

/-- A condition whose operator the catalogue knows under one name holds if the operator answers so. -/
theorem holds_eq_true {operator canonical : Operator} (hoperator : c.operator = .known operator)
    (hcanonical : catalogue.canonicalOperator? c.field operator = some canonical) :
    c.holds catalogue now record = true ↔
      Comparison.apply canonical (catalogue.fieldType c.field) (record.resolve c.field) c.value c.value2
        now = .ok true := by
  rw [holds, verdict_of_canonical hoperator hcanonical, Verdict.holds_ofAnswer]

/-- An operator that dates have no other name for holds where the field allows it and it answers so. -/
theorem holds_iff_apply {operator : Operator} (hoperator : c.operator = .known operator)
    (honDates : operator.onDates = operator) :
    c.holds catalogue now record = true ↔ operator ∈ catalogue.operatorsFor c.field ∧
      Comparison.apply operator (catalogue.fieldType c.field) (record.resolve c.field) c.value c.value2
        now = .ok true := by
  by_cases hmem : operator ∈ catalogue.operatorsFor c.field
  · rw [holds_eq_true hoperator (Catalogue.canonicalOperator?_of_mem (fun _ => honDates) hmem)]
    exact ⟨fun h => ⟨hmem, h⟩, fun h => h.2⟩
  · have hrefused : ¬ c.Admissible catalogue := by
      rintro ⟨known, hknown, hallowed⟩
      cases hoperator.symm.trans hknown
      obtain ⟨canonical, hcanonical⟩ := Option.isSome_iff_exists.1 hallowed
      obtain ⟨hname, hlisted⟩ := Catalogue.canonicalOperator?_eq_some.1 hcanonical
      rw [honDates, ite_self] at hname
      exact hmem (hname ▸ hlisted)
    rw [holds, Verdict.holds_of_isRefusal (isRefusal_verdict.2 hrefused)]
    exact ⟨fun h => absurd h Bool.false_ne_true, fun h => absurd h.1 hmem⟩

end Condition

end Segmentation
