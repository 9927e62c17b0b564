import Segmentation.Catalogue.Contact
import Segmentation.Proofs.Catalogue.Operators
import Segmentation.Proofs.Editing.Coercion
import Segmentation.Proofs.Evaluation.SeveralValues
import Segmentation.Proofs.Evaluation.Verdict
import Segmentation.Proofs.Text

/-!
# Blank upper bounds

Blank input for the upper bound of a range is meant to clear the bound.

* `Operand.ofNumberInput_blank`, `Value.moment?_blank`: a blank text stands for no number and for no moment.
* `Condition.holds_unbounded_iff`: a range without an upper bound holds for the values that are not below the lower
  one.
* `Condition.holds_setValue2_blank`: blank input clears the bound of a range of numbers. On a date field blanks are
  kept as the bound, and the range holds for no record any more.
-/

namespace Segmentation

open Calendar

/-! ## Blank input -/

/-- Nothing, or a text of blanks. -/
def Value.IsBlankInput : Value → Prop
  | null => True
  | text s => ∀ ch ∈ s.toList, Text.isBlank ch = true
  | _ => False

/-- Blank input stands for no number. -/
theorem Operand.ofNumberInput_blank {raw : Value} (hraw : raw.IsBlankInput) : ofNumberInput raw = .ok (text "") := by
  cases raw with
  | null => rfl
  | text s =>
    have hnone : Binary64.ofText? (Text.trim s) = none := by
      rw [Text.trim, Text.trimList_eq_nil hraw]
      decide +kernel
    rw [ofNumberInput_text, ofNumberText_none hnone]
  | _ => exact hraw.elim

/-- A blank text is no moment. -/
theorem Value.moment?_blank {s : String} (hs : ∀ ch ∈ s.toList, Text.isBlank ch = true) :
    (text s).moment? = none := by
  rw [moment?, Text.trimList_eq_nil hs]
  rfl

namespace Condition

variable {catalogue : Catalogue} {c : Condition} {raw : Value} {now : DateTime} {record : Value}

/-! ## Ranges -/

/-- A range holds for the values between its bounds, on a field that allows ranges. -/
theorem holds_iff_within (hoperator : c.operator = .known .between) :
    c.holds catalogue now record = true ↔ .between ∈ catalogue.operatorsFor c.field ∧
      Comparison.within (catalogue.fieldType c.field)
        (Comparison.stored (catalogue.fieldType c.field) (record.resolve c.field)) c.value.toValue c.value2 =
        .ok true :=
  holds_iff_apply hoperator rfl

/-- The record's value and the operand have places on the scale of the field, and the value is not below. -/
def NotBelow (catalogue : Catalogue) (c : Condition) (record : Value) : Prop :=
  ∃ place low,
    Comparison.rank (catalogue.fieldType c.field)
      (Comparison.stored (catalogue.fieldType c.field) (record.resolve c.field)) = .ok (some place) ∧
    Comparison.rank (catalogue.fieldType c.field) c.value.toValue = .ok (some low) ∧
    low.position ≤ place.position

/-- A range without an upper bound holds for what is not below the lower one. -/
theorem holds_unbounded_iff (hoperator : c.operator = .known .between) :
    { c with value2 := .null }.holds catalogue now record = true ↔
      .between ∈ catalogue.operatorsFor c.field ∧ c.NotBelow catalogue record := by
  rw [holds_iff_within (c := { c with value2 := .null }) hoperator, Comparison.within_eq_ok, Comparison.ordered_eq_ok]
  simp [NotBelow, Operand.isBlank]

/-- A range of dates whose upper bound is no moment holds for no record. -/
theorem holds_of_bound_not_moment (hoperator : c.operator = .known .between)
    (hdate : catalogue.fieldType c.field = .date) (hbound : c.value2.isBlank = false)
    (hmoment : c.value2.toValue.moment? = none) : c.holds catalogue now record = false := by
  rw [← Bool.not_eq_true, holds_iff_within hoperator, Comparison.within_eq_ok]
  rintro ⟨-, -, habove⟩
  obtain ⟨place, bound, -, hrank, -⟩ := Comparison.ordered_eq_ok.1 (habove hbound)
  rw [hdate, Comparison.rank, hmoment] at hrank
  cases hrank

/-- Without an upper bound a range of dates holds for some record exactly if the lower bound is a moment: then it
holds for the lower bound itself. -/
theorem exists_holds_unbounded_iff (hoperator : c.operator = .known .between)
    (hdate : catalogue.fieldType c.field = .date) :
    (∃ now record, { c with value2 := .null }.holds catalogue now record = true) ↔
      .between ∈ catalogue.operatorsFor c.field ∧ c.value.toValue.moment? ≠ none := by
  simp only [holds_unbounded_iff hoperator, NotBelow, hdate]
  constructor
  · rintro ⟨-, record, hmem, place, low, -, hlow, -⟩
    refine ⟨hmem, fun hnone => ?_⟩
    rw [Comparison.rank, hnone] at hlow
    cases hlow
  · rintro ⟨hmem, hmoment⟩
    obtain ⟨d, hd⟩ := Option.ne_none_iff_exists'.1 hmoment
    have hnull : c.value.toValue.isNull = false := by
      cases hvalue : c.value.toValue with
      | null =>
        rw [hvalue] at hd
        cases hd
      | _ => rfl
    refine ⟨default, .record [(c.field, c.value.toValue)], hmem, .moment d, .moment d, ?_, ?_, Int.le_refl _⟩
    · rw [Value.resolve_record c.field hnull, Comparison.rank, Comparison.moment?_stored, hd]
      rfl
    · rw [Comparison.rank, hd]
      rfl

/-! ## Setting the bound -/

/-- Blank input clears the bound where a number is asked for, and everywhere if it is empty. -/
theorem setValue2_blank (hlist : c.operator.takesList = false) (hraw : raw.IsBlankInput)
    (hcleared : c.TakesNumber catalogue ∨ raw = .null ∨ raw = .text "") :
    c.setValue2 catalogue raw = .ok { c with value2 := .null } := by
  have hcoerce : c.coerce catalogue raw = .ok (.text "") := by
    by_cases hnumber : c.TakesNumber catalogue
    · rw [coerce_number hnumber, Operand.ofNumberInput_blank hraw]
    · rcases hcleared.resolve_left hnumber with rfl | rfl
      · exact coerce_null hlist hnumber
      · exact coerce_text hlist hnumber (by simp)
  exact setValue2_eq_ok.2 ⟨_, hcoerce, rfl⟩

/-- Any other text is kept as the bound. -/
theorem setValue2_text (hlist : c.operator.takesList = false) (hnumber : ¬ c.TakesNumber catalogue) {s : String}
    (hs : s ≠ "") : c.setValue2 catalogue (.text s) = .ok { c with value2 := .text s } := by
  have hcoerce : c.coerce catalogue (.text s) = .ok (.text s) := coerce_text hlist hnumber (by simp)
  exact setValue2_eq_ok.2 ⟨_, hcoerce, by rw [if_neg (by simpa using hs)]⟩

/-- Blank input for the upper bound gives a range without one, which holds for what is not below the lower bound, if
the field holds numbers or the input is empty. On a date field other blanks are kept, and the range holds for no
record. -/
theorem holds_setValue2_blank (hoperator : c.operator = .known .between)
    (htype : catalogue.fieldType c.field = .number ∨ catalogue.fieldType c.field = .date)
    (hraw : raw.IsBlankInput) :
    (∀ now record, { c with value2 := .null }.holds catalogue now record = true ↔
        .between ∈ catalogue.operatorsFor c.field ∧ c.NotBelow catalogue record) ∧
      ∃ bounded, c.setValue2 catalogue raw = .ok bounded ∧
        ((∀ now record,
            bounded.holds catalogue now record = { c with value2 := .null }.holds catalogue now record) ↔
          catalogue.fieldType c.field = .number ∨ raw = .null ∨ raw = .text "" ∨
            .between ∉ catalogue.operatorsFor c.field ∨ c.value.toValue.moment? = none) ∧
        (catalogue.fieldType c.field = .date → raw ≠ .null → raw ≠ .text "" →
          ∀ now record, bounded.holds catalogue now record = false) := by
  refine ⟨fun now record => holds_unbounded_iff hoperator, ?_⟩
  have hlist : c.operator.takesList = false := by rw [hoperator]; rfl
  have hnumber : c.TakesNumber catalogue ↔ catalogue.fieldType c.field = .number := by
    have hdays : c.operator.countsDays = false := by rw [hoperator]; rfl
    simp [TakesNumber, hlist, hdays]
  by_cases hcleared : catalogue.fieldType c.field = .number ∨ raw = .null ∨ raw = .text ""
  · refine ⟨_, setValue2_blank hlist hraw (by rwa [hnumber]), ?_, fun hdate hnull hempty => ?_⟩
    · refine iff_of_true (fun now record => rfl) ?_
      rcases hcleared with hnumber | hnull | hempty
      · exact .inl hnumber
      · exact .inr (.inl hnull)
      · exact .inr (.inr (.inl hempty))
    · simp [hdate, hnull, hempty] at hcleared
  · obtain ⟨hnot, hnull, hempty⟩ : catalogue.fieldType c.field ≠ .number ∧ raw ≠ .null ∧ raw ≠ .text "" := by
      simpa only [not_or] using hcleared
    have hdate := htype.resolve_left hnot
    obtain ⟨s, rfl⟩ : ∃ s, raw = .text s := by
      cases raw with
      | text s => exact ⟨s, rfl⟩
      | null => exact absurd rfl hnull
      | _ => exact hraw.elim
    have hs : s ≠ "" := fun hs => hempty (congrArg Value.text hs)
    have hnone : ∀ now record, { c with value2 := .text s }.holds catalogue now record = false :=
      fun now record => holds_of_bound_not_moment (c := { c with value2 := .text s }) hoperator hdate
        (decide_eq_false hs) (Value.moment?_blank hraw)
    refine ⟨_, setValue2_text hlist (hnumber.not.2 hnot) hs, ?_, fun _ _ _ => hnone⟩
    simp only [hnone, hnot, hnull, hempty, false_or]
    have hsome := exists_holds_unbounded_iff hoperator hdate
    constructor
    · intro halike
      by_contra hmoment
      rw [not_or, not_not] at hmoment
      obtain ⟨now, record, hholds⟩ := hsome.2 hmoment
      exact Bool.false_ne_true ((halike now record).trans hholds)
    · intro hrefused now record
      symm
      rw [← Bool.not_eq_true]
      intro hholds
      obtain ⟨hmem, hmoment⟩ := hsome.1 ⟨now, record, hholds⟩
      exact hrefused.elim (fun h => h hmem) hmoment

/-- A tab is cleared as the upper bound of a range of numbers. -/
theorem holds_setValue2_blank_score :
    let c : Condition := ⟨"c", "lead_score", .known .between, .int 50, .int 80⟩
    (c.operator = .known .between ∧ Catalogue.contact.fieldType c.field = .number ∧
        (Value.text "\t").IsBlankInput) ∧
      ∃ bounded, c.setValue2 .contact (.text "\t") = .ok bounded ∧ ∀ now record,
        bounded.holds .contact now record = { c with value2 := .null }.holds .contact now record := by
  intro c
  have hnumber : Catalogue.contact.fieldType c.field = .number := by decide
  have hblank : (Value.text "\t").IsBlankInput := by
    intro ch hch
    rw [List.mem_singleton.1 (show ch ∈ ['\t'] from hch)]
    decide
  obtain ⟨-, bounded, hset, halike, -⟩ := holds_setValue2_blank (c := c) rfl (.inl hnumber) hblank
  exact ⟨⟨rfl, hnumber, hblank⟩, bounded, hset, halike.2 (.inl hnumber)⟩

/-- A blank is kept as the upper bound of a range of dates, and a day after the lower bound is not found. -/
theorem not_holds_setValue2_blank :
    let c : Condition := ⟨"c", "created_at", .known .between, .text "2026-01-01", .null⟩
    let record : Value := .ofFields [("created_at", .text "2026-02-01")]
    c.setValue2 .contact (.text " ") = .ok { c with value2 := .text " " } ∧
      { c with value2 := .text " " }.holds .contact default record = false ∧
      { c with value2 := .null }.holds .contact default record = true := by
  intro c record
  refine ⟨rfl, ?_, ?_⟩
  · decide +kernel
  · decide +kernel

end Condition

end Segmentation
