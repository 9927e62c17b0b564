import Segmentation.Catalogue.Contact
import Segmentation.Proofs.Catalogue.Operators
import Segmentation.Proofs.Editing.Coercion
import Segmentation.Proofs.Evaluation.SeveralValues
import Segmentation.Proofs.Evaluation.Verdict
import Segmentation.Proofs.Value.Scalar

/-!
# Conditions built from a stored value

A condition on a text can be built by giving the editor the value that a record holds in the field.

* `Condition.setValue_offered`: the operand is the value as it is written.
* `Condition.holds_offered`: the record's value is compared by another text, which may be the same.
* `Condition.holds_setValue_own`: so the condition finds the records with the value exactly if the value is compared
  as it is written.
-/

namespace Segmentation

open Calendar

/-- The operators that look for a text in a field: as the text of the field, as another one, or as a choice. -/
def Operator.looksForText : Operator → Bool
  | .equals | .notEquals | .isIn => true
  | _ => false

/-- The editor input that offers a value to such an operator. -/
def Operator.offered (v : Value) : Operator → Value
  | .isIn => .collection .list [v]
  | _ => v

/-- The operand that looks for a text. -/
def Operator.operandFor (s : String) : Operator → Operand
  | .isIn => .texts [s]
  | _ => .text s

namespace Condition

variable {catalogue : Catalogue} {c : Condition} {operator : Operator} {v : Value} {s t : String}

/-- On a field that holds no numbers the operand is the value as it is written. -/
theorem setValue_offered (hoperator : c.operator = .known operator) (hlooks : operator.looksForText = true)
    (htype : catalogue.fieldType c.field ≠ .number) (hv : v.IsScalar) :
    c.setValue catalogue (operator.offered v) =
      v.toText.map fun s => { c with value := operator.operandFor s } := by
  have hnumber : operator.countsDays = false → ¬ c.TakesNumber catalogue := by
    rintro hdays ⟨-, htype' | hdays'⟩
    · exact htype htype'
    · rw [hoperator] at hdays'
      exact Bool.false_ne_true (hdays.symm.trans hdays')
  have hnull : v ≠ .null := by
    rintro rfl
    exact hv
  have hcoerce : c.coerce catalogue (operator.offered v) = v.toText.map operator.operandFor := by
    cases operator with
    | isIn =>
      have hitems : Operand.ofListInput (.collection .list [v]) = v.toText.map fun s => [s] := by
        rw [Operand.ofListInput, List.mapM_cons, List.mapM_nil]
        cases v.toText <;> rfl
      rw [coerce_list (by rw [hoperator]; rfl), Operator.offered, hitems]
      cases v.toText <;> rfl
    | equals | notEquals => exact coerce_text (by rw [hoperator]; rfl) (hnumber rfl) hnull
    | _ => cases hlooks
  rw [setValue, hcoerce]
  cases v.toText <;> rfl

/-- The text that is looked for is compared with the one by which the value of the record is compared. -/
theorem holds_offered (hoperator : c.operator = .known operator) (hlooks : operator.looksForText = true)
    (hmem : operator ∈ catalogue.operatorsFor c.field) (htype : catalogue.fieldType c.field ≠ .number)
    (hv : v.IsScalar) (ht : v.comparisonText = .ok t) (hvalue : c.value = operator.operandFor s) (now : DateTime)
    {record : Value} (hrecord : record.resolve c.field = v) :
    c.holds catalogue now record = decide (t = s ↔ operator ≠ .notEquals) := by
  have hcanonical : catalogue.canonicalOperator? c.field operator = some operator := by
    refine Catalogue.canonicalOperator?_of_mem (fun _ => ?_) hmem
    cases operator with
    | equals | notEquals | isIn => rfl
    | _ => cases hlooks
  have hstored : Comparison.stored (catalogue.fieldType c.field) v = v := by
    cases v with
    | null => exact hv.elim
    | _ => rfl
  have hequal : ∀ b, Comparison.equal (catalogue.fieldType c.field) v (.text s) = .ok b ↔ decide (t = s) = b := by
    intro b
    rw [Comparison.equal_eq_ok htype, ht]
    simp [Value.comparisonText, Value.toText]
  have hamong : Comparison.isAmong v (.collection .list [.text s]) = .ok (decide (t = s)) :=
    Comparison.isAmong_eq_ok.2 ⟨t, [s], ht, rfl, by simp⟩
  rw [Bool.eq_iff_iff, holds_eq_true hoperator hcanonical, hrecord, hvalue]
  unfold Comparison.apply
  dsimp only
  rw [hstored]
  cases operator with
  | equals =>
    refine (hequal true).trans ?_
    simp
  | notEquals =>
    rw [Comparison.not_eq_ok]
    refine (hequal false).trans ?_
    simp
  | isIn =>
    change Comparison.isAmong v (.collection .list [.text s]) = .ok true ↔ _
    rw [hamong]
    simp
  | _ => cases hlooks

/-- A condition that is built from the value of a record finds the records with that value exactly if the value is
compared as it is written. Otherwise it cannot be built, or it gives the wrong answer for all of them. -/
theorem holds_setValue_own (hoperator : c.operator = .known operator) (hlooks : operator.looksForText = true)
    (hmem : operator ∈ catalogue.operatorsFor c.field) (htype : catalogue.fieldType c.field ≠ .number)
    (hv : v.IsScalar) :
    ((∃ built, c.setValue catalogue (operator.offered v) = .ok built ∧
        ∀ now record, record.resolve c.field = v →
          built.holds catalogue now record = decide (operator ≠ .notEquals)) ↔ v.ComparesAsWritten false) ∧
      ∀ built, c.setValue catalogue (operator.offered v) = .ok built → ¬ v.ComparesAsWritten false →
        ∀ now record, record.resolve c.field = v →
          built.holds catalogue now record = decide (operator = .notEquals) := by
  -- What is built answers for every record with the value as the two texts of the value compare.
  have hbuilt : ∀ built, c.setValue catalogue (operator.offered v) = .ok built →
      ∀ now record, record.resolve c.field = v →
        (built.holds catalogue now record = true ↔ (v.ComparesAsWritten false ↔ operator ≠ .notEquals)) := by
    intro built hset now record hrecord
    rw [setValue_offered hoperator hlooks htype hv] at hset
    obtain ⟨s, hs, rfl⟩ := map_eq_ok.1 hset
    obtain ⟨t, ht⟩ := Value.HasText.comparisonText ⟨s, hs⟩
    rw [holds_offered (c := { c with value := operator.operandFor s }) hoperator hlooks hmem htype hv ht rfl now
      hrecord, decide_eq_true_iff, Value.comparesAsWritten_iff hv hs ht, if_neg Bool.false_ne_true]
  refine ⟨⟨?_, fun hwritten => ?_⟩, ?_⟩
  · rintro ⟨built, hset, hright⟩
    have hholds := hright default (.record [(c.field, v)]) (Value.resolve_record c.field hv.isNull)
    have hiff := hbuilt built hset default (.record [(c.field, v)]) (Value.resolve_record c.field hv.isNull)
    rw [hholds, decide_eq_true_iff] at hiff
    tauto
  · obtain ⟨s, hs⟩ := hwritten.hasText hv
    have hset : c.setValue catalogue (operator.offered v) = .ok { c with value := operator.operandFor s } := by
      rw [setValue_offered hoperator hlooks htype hv, hs]
      rfl
    refine ⟨_, hset, fun now record hrecord => ?_⟩
    rw [Bool.eq_iff_iff, hbuilt _ hset now record hrecord, decide_eq_true_iff]
    tauto
  · intro built hset hwritten now record hrecord
    rw [Bool.eq_iff_iff, hbuilt built hset now record hrecord, decide_eq_true_iff]
    tauto

/-- A referral code that is stored as the number 40 is looked for, and found. -/
theorem holds_setValue_own_code :
    let c : Condition := ⟨"c", "custom_fields.referral_code", .known .equals, .text "", .null⟩
    let record : Value := .ofFields [("custom_fields", .ofFields [("referral_code", .int 40)])]
    (c.operator = .known .equals ∧ .equals ∈ Catalogue.contact.operatorsFor c.field ∧
        Catalogue.contact.fieldType c.field ≠ .number ∧ (Value.int 40).IsScalar) ∧
      ∃ built, c.setValue .contact (.int 40) = .ok built ∧ built.holds .contact default record = true := by
  intro c record
  have hmem : .equals ∈ Catalogue.contact.operatorsFor c.field := by decide
  have htype : Catalogue.contact.fieldType c.field ≠ .number := by decide
  have hscalar : (Value.int 40).IsScalar := trivial
  have hshort : Integer.HasText 40 := by decide +kernel
  have hnames : Text.split c.field '.' = ["custom_fields", "referral_code"] := by decide +kernel
  have hrecord : record.resolve c.field = .int 40 := by
    simp [record, c, Value.resolve, hnames, Value.lookup, Value.follow, Value.isNull, Value.ofFields,
      Value.valueUnder?]
  obtain ⟨hright, -⟩ := holds_setValue_own (c := c) rfl rfl hmem htype hscalar
  obtain ⟨built, hset, hholds⟩ := hright.2 hshort
  exact ⟨⟨rfl, hmem, htype, hscalar⟩, built, hset, hholds default record hrecord⟩

/-- A flag and a whole floating-point number are not found by the conditions that are built from them: as the text of
the field, as another text, and as a choice. -/
theorem not_holds_setValue_own :
    let one : Binary64 := .finite false (2 ^ 52) (-52) (by decide)
    let equal : Condition := ⟨"c", "source", .known .equals, .text "", .null⟩
    let differs : Condition := ⟨"c", "source", .known .notEquals, .text "", .null⟩
    let chosen : Condition := ⟨"c", "status", .known .isIn, .text "", .null⟩
    (∃ built, equal.setValue .contact (.bool true) = .ok built ∧
      built.holds .contact default (.ofFields [("source", .bool true)]) = false) ∧
    (∃ built, differs.setValue .contact (.float one) = .ok built ∧
      built.holds .contact default (.ofFields [("source", .float one)]) = true) ∧
    ∃ built, chosen.setValue .contact (.collection .list [.bool true]) = .ok built ∧
      built.holds .contact default (.ofFields [("status", .bool true)]) = false := by
  intro one equal differs chosen
  refine ⟨⟨{ equal with value := .text "True" }, rfl, ?_⟩, ⟨{ differs with value := .text "1.0" }, ?_, ?_⟩,
    ⟨{ chosen with value := .texts ["True"] }, rfl, ?_⟩⟩
  · decide +kernel
  · rfl
  · decide +kernel
  · decide +kernel

end Condition

end Segmentation
