import Segmentation.Catalogue.Contact
import Segmentation.Proofs.Catalogue.Operators
import Segmentation.Proofs.Editing.Coercion
import Segmentation.Proofs.Evaluation.Verdict
import Segmentation.Proofs.Number.Written

/-!
# Whole numbers in conditions

* `Operand.ofNumberInput_digits`: editor input of an integer becomes an operand for the number nearest to it.
* `Operator.relation?`: the operators that compare numbers, and `Comparison.apply_relation`: how they do it.
* `Condition.holds_setValue_digits`: a condition that was built from the digits of an integer compares the stored
  integer with it after both have been rounded, which is exact unless two different integers are rounded to one
  number.
-/

namespace Segmentation

open Calendar

namespace Operand

open Binary64

/-- The digits of an integer make the operand for the number nearest to it. -/
theorem ofNumberInput_digits (n : Int) :
    ofNumberInput (.text (String.ofList (Integer.digits n))) = .ok (ofNumber (ofInt n)) := by
  have hread : ofText? (Text.trim (String.ofList (Integer.digits n))) = some (ofInt n) := by
    rw [(Integer.onlyNumberChars_digits n).trim, ofText?_digits]
  rw [ofNumberInput_text, ofNumberText_some hread]

/-- That operand stands where the integer was rounded to. -/
theorem number?_ofNumber_ofInt (n : Int) :
    ∃ y, (ofNumber (ofInt n)).toValue.number? = .ok (some y) ∧ y.position = (ofInt n).position := by
  by_cases hfinite : (ofInt n).isFinite = true
  · obtain ⟨k, hk⟩ := exists_position_ofInt hfinite
    obtain ⟨hintegral, htruncate⟩ := isIntegral_of_position hfinite hk
    obtain ⟨hagain, hposition⟩ := ofInt_of_position hfinite hk
    refine ⟨ofInt k, ?_, hposition⟩
    rw [ofNumber, if_pos hintegral, htruncate]
    unfold toValue Value.number?
    dsimp only
    rw [if_pos hagain]
  · rw [ofInt_eq_infinite (by simpa using hfinite)]
    exact ⟨infinite (n < 0), rfl, rfl⟩

end Operand

/-! ## Comparing integers -/

/-- How an operator compares two numbers, if that is what it does. -/
def Operator.relation? : Operator → Option (Int → Int → Bool)
  | .equals => some fun a b => a = b
  | .notEquals => some fun a b => a ≠ b
  | .lessThan => some fun a b => a < b
  | .greaterThan => some fun a b => b < a
  | .lessOrEqual => some fun a b => a ≤ b
  | .greaterOrEqual => some fun a b => b ≤ a
  | _ => none

variable {operator : Operator} {relation : Int → Int → Bool}

/-- The answer depends only on the order of the two numbers. -/
theorem Operator.relation_congr (hrelation : operator.relation? = some relation) {a b a' b' : Int}
    (hle : a ≤ b ↔ a' ≤ b') (hge : b ≤ a ↔ b' ≤ a') : relation a b = relation a' b' := by
  unfold Operator.relation? at hrelation
  split at hrelation <;> cases hrelation <;> simp only [decide_eq_decide] <;> omega

namespace Comparison

variable {raw : Value} {expected upper : Operand} {now : DateTime}

/-- A stored number is compared with the operand as a number, and one that is too large fails. -/
theorem apply_relation (hrelation : operator.relation? = some relation) {stored : Except Failure Binary64}
    (hstored : (Comparison.stored .number raw).number? = stored.map some) {y : Binary64}
    (hy : expected.toValue.number? = .ok (some y)) :
    apply operator .number raw expected upper now = stored.map fun x => relation x.position y.position := by
  have hequal : equal .number (Comparison.stored .number raw) expected.toValue =
      stored.map fun x => decide (x.position = y.position) := by
    unfold equal
    rw [hstored, hy]
    cases stored <;> rfl
  have hordered : ∀ relation, ordered .number relation (Comparison.stored .number raw) expected.toValue =
      stored.map fun x => relation x.position y.position := by
    intro relation
    unfold ordered rank
    rw [hstored, hy]
    cases stored <;> rfl
  unfold Operator.relation? at hrelation
  unfold apply
  split at hrelation <;> cases hrelation <;> dsimp only
  · exact hequal
  · rw [hequal]
    cases stored with
    | error cause => rfl
    | ok x => simp [Except.map, bind, Except.bind, pure, Except.pure]
  all_goals rw [hordered]

end Comparison

namespace Condition

open Binary64

variable {catalogue : Catalogue} {c : Condition}

/-- The digits of an integer set the operand of a condition on a number. -/
theorem setValue_digits (hoperator : c.operator = .known operator)
    (hrelation : operator.relation? = some relation) (htype : catalogue.fieldType c.field = .number) (n : Int) :
    c.setValue catalogue (.text (String.ofList (Integer.digits n))) =
      .ok { c with value := .ofNumber (ofInt n) } := by
  have hlist : c.operator.takesList = false := by
    rw [hoperator]
    cases operator <;> first | rfl | cases hrelation
  exact setValue_eq_ok.2 ⟨_, (coerce_number ⟨hlist, .inl htype⟩ _).trans (Operand.ofNumberInput_digits n), rfl⟩

/-- Such a condition compares a stored integer and its own one as they are rounded; an integer that is too large
to be rounded passes no comparison. -/
theorem holds_ofNumber (hoperator : c.operator = .known operator)
    (hrelation : operator.relation? = some relation) (htype : catalogue.fieldType c.field = .number)
    (hmem : operator ∈ catalogue.operatorsFor c.field) {n m : Int} (hvalue : c.value = .ofNumber (ofInt n))
    (now : DateTime) {record : Value} (hm : record.resolve c.field = .int m) :
    c.holds catalogue now record = ((ofInt m).isFinite && relation (ofInt m).position (ofInt n).position) := by
  have hcanonical : catalogue.canonicalOperator? c.field operator = some operator :=
    Catalogue.canonicalOperator?_of_mem (fun hdate => by cases htype.symm.trans hdate) hmem
  obtain ⟨y, hy, hposition⟩ := Operand.number?_ofNumber_ofInt n
  have hstored : (Comparison.stored .number (.int m)).number? =
      (if (ofInt m).isFinite then Except.ok (ofInt m) else .error Failure.numberTooLarge).map some := by
    unfold Comparison.stored Value.number?
    dsimp only
    split_ifs <;> rfl
  rw [holds, verdict_of_canonical hoperator hcanonical, htype, hm, hvalue,
    Comparison.apply_relation hrelation hstored hy, hposition]
  cases (ofInt m).isFinite <;> rfl

/-- Integers that are rounded to different places keep their order. -/
theorem relation_position (hrelation : operator.relation? = some relation) {m n : Int}
    (h : m = n ∨ (ofInt m).position ≠ (ofInt n).position) :
    relation (ofInt m).position (ofInt n).position = relation m n := by
  rcases h with rfl | hne
  · exact Operator.relation_congr hrelation (by simp) (by simp)
  · rcases le_total m n with hle | hge
    · have hmono := position_ofInt_mono hle
      have hlt : m < n := lt_of_le_of_ne hle fun heq => hne (heq ▸ rfl)
      exact Operator.relation_congr hrelation (by omega) (by omega)
    · have hmono := position_ofInt_mono hge
      have hlt : n < m := lt_of_le_of_ne hge fun heq => hne (heq ▸ rfl)
      exact Operator.relation_congr hrelation (by omega) (by omega)

/-- A condition that was built from the digits of an integer compares a stored integer with it as both are
rounded. So the comparison is exact unless two different integers are rounded to one number or the stored one is
too large for a number, and it always is up to `2 ^ 53`. -/
theorem holds_setValue_digits (hoperator : c.operator = .known operator)
    (hrelation : operator.relation? = some relation) (htype : catalogue.fieldType c.field = .number)
    (hmem : operator ∈ catalogue.operatorsFor c.field) (n : Int) :
    ∃ built, c.setValue catalogue (.text (String.ofList (Integer.digits n))) = .ok built ∧
      ∀ now record m, record.resolve c.field = .int m →
        built.holds catalogue now record =
          ((ofInt m).isFinite && relation (ofInt m).position (ofInt n).position) ∧
        ((ofInt m).isFinite = true → (m = n ∨ (ofInt m).position ≠ (ofInt n).position) →
          built.holds catalogue now record = relation m n) ∧
        (m.natAbs ≤ 2 ^ 53 → n.natAbs ≤ 2 ^ 53 → built.holds catalogue now record = relation m n) := by
  refine ⟨_, setValue_digits hoperator hrelation htype n, fun now record m hm => ?_⟩
  have hrounded := holds_ofNumber (c := { c with value := .ofNumber (ofInt n) }) hoperator hrelation
    htype hmem rfl now hm
  have hexact : (ofInt m).isFinite = true → (m = n ∨ (ofInt m).position ≠ (ofInt n).position) →
      Condition.holds catalogue now record { c with value := .ofNumber (ofInt n) } = relation m n := by
    intro hfinite hapart
    rw [hrounded, hfinite, Bool.true_and, relation_position hrelation hapart]
  refine ⟨hrounded, hexact, fun hm hn => ?_⟩
  obtain ⟨hfinite, hposition⟩ := position_ofInt_of_le hm
  refine hexact hfinite ?_
  rw [hposition, (position_ofInt_of_le hn).2]
  by_cases heq : m = n
  · exact .inl heq
  · exact .inr fun hmul => heq (Int.eq_of_mul_eq_mul_right (by positivity) hmul)

/-- A score is compared with 12. -/
theorem holds_setValue_digits_score :
    let c : Condition := ⟨"c", "lead_score", .known .greaterThan, .text "", .null⟩
    (Operator.greaterThan.relation? = some (fun a b => decide (b < a)) ∧ Catalogue.contact.fieldType c.field = .number ∧
        .greaterThan ∈ Catalogue.contact.operatorsFor c.field) ∧
      ∃ built, c.setValue .contact (.text "12") = .ok built ∧
        built.holds .contact default (.ofFields [("lead_score", .int 13)]) = true ∧
        built.holds .contact default (.ofFields [("lead_score", .int 12)]) = false := by
  intro c
  have hrelation : Operator.greaterThan.relation? = some fun a b => decide (b < a) := rfl
  have htype : Catalogue.contact.fieldType c.field = .number := by decide
  have hmem : .greaterThan ∈ Catalogue.contact.operatorsFor c.field := by decide
  obtain ⟨built, hbuilt, hholds⟩ := holds_setValue_digits (c := c) rfl hrelation htype hmem 12
  exact ⟨⟨hrelation, htype, hmem⟩, built, hbuilt, (hholds default _ 13 rfl).2.2 (by decide) (by decide),
    (hholds default _ 12 rfl).2.2 (by decide) (by decide)⟩

/-- The integer after `2 ^ 53` is taken for `2 ^ 53`. -/
theorem holds_equals_next :
    let c : Condition := ⟨"c", "lead_score", .known .equals, .text "", .null⟩
    let record : Value := .ofFields [("lead_score", .int 9007199254740993)]
    ∃ built, c.setValue .contact (.text (String.ofList (Integer.digits 9007199254740992))) = .ok built ∧
      record.resolve c.field = .int 9007199254740993 ∧ (9007199254740993 : Int) ≠ 9007199254740992 ∧
      built.value = .int 9007199254740992 ∧ built.holds .contact default record = true := by
  intro c record
  have htype : Catalogue.contact.fieldType c.field = .number := by decide
  have hvalue : Operand.ofNumber (ofInt 9007199254740992) = .int 9007199254740992 := by decide +kernel
  refine ⟨_, setValue_digits (c := c) rfl rfl htype 9007199254740992, rfl, by decide, hvalue, ?_⟩
  rw [hvalue]
  decide +kernel

end Condition

end Segmentation
