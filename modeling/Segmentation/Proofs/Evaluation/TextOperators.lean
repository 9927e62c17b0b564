import Segmentation.Proofs.Evaluation.Ordering

/-!
# Operators on text

A text starts with, ends with or holds another one where the folded texts are in the relation of a prefix, a suffix or
an infix. Equality compares the texts themselves.

* `Comparison.apply_part`, `Comparison.apply_equals`: the four operators on values that are no collections.
* `Condition.textOperators_nested`: equal texts start and end with each other, what a text starts or ends with it holds,
  nothing is asked by a blank value, and case is ignored.
-/

namespace Segmentation

/-! ## Parts of a text -/

namespace Text

theorem startsWith_iff {s start : String} : startsWith s start = true ↔ start.toList <+: s.toList :=
  List.isPrefixOf_iff_prefix

theorem endsWith_iff {s ending : String} : endsWith s ending = true ↔ ending.toList <:+ s.toList :=
  List.isSuffixOf_iff_suffix

theorem occursIn_iff {needle cs : List Char} : occursIn needle cs = true ↔ needle <:+: cs := by
  induction cs with
  | nil => rw [occursIn, List.isEmpty_iff, List.infix_nil]
  | cons c cs ih => rw [occursIn, Bool.or_eq_true, List.isPrefixOf_iff_prefix, ih, List.infix_cons_iff]

theorem contains_iff {s part : String} : contains s part = true ↔ part.toList <:+: s.toList :=
  occursIn_iff

end Text

/-- How the folded text of the value stands in the folded text of a record, for the operators that ask for a part. -/
def Operator.part? : Operator → Option (List Char → List Char → Prop)
  | startsWith => some (· <+: ·)
  | endsWith => some (· <:+ ·)
  | contains => some (· <:+: ·)
  | _ => none

section

variable {operator : Operator} {part : List Char → List Char → Prop}

theorem Operator.part_self (h : operator.part? = some part) (cs : List Char) : part cs cs := by
  cases operator <;> cases h
  · exact List.infix_rfl
  · exact List.prefix_rfl
  · exact List.suffix_rfl

theorem Operator.part_nil (h : operator.part? = some part) (cs : List Char) : part [] cs := by
  cases operator <;> cases h
  · exact List.nil_infix
  · exact List.nil_prefix
  · exact List.nil_suffix

theorem Operator.part_infix (h : operator.part? = some part) {cs ds : List Char} (hpart : part cs ds) :
    cs <:+: ds := by
  cases operator <;> cases h
  · exact hpart
  · exact hpart.isInfix
  · exact hpart.isInfix

end

/-! ## The operators on single values -/

namespace Comparison

variable {operator : Operator} {part : List Char → List Char → Prop} {type : FieldType} {raw actual expected : Value}

theorem stored_ne_collection (htype : type ≠ .array) (hraw : ∀ kind items, raw ≠ .collection kind items) :
    ∀ kind items, stored type raw ≠ .collection kind items := by
  cases raw with
  | null =>
    cases type with
    | array => exact absurd rfl htype
    | _ => nofun
  | collection kind items => exact absurd rfl (hraw kind items)
  | _ => nofun

/-- Where no members are looked for, a text is held by another one. -/
theorem holds_eq_ok_true (htype : type ≠ .array) (hactual : ∀ kind items, actual ≠ .collection kind items) :
    holds type actual expected = .ok true ↔
      ∃ s t, actual.foldedText = .ok s ∧ expected.foldedText = .ok t ∧ t.toList <:+: s.toList := by
  unfold holds
  rw [bind_eq_ok]
  constructor
  · rintro ⟨t, ht, h⟩
    split at h
    · exact absurd rfl htype
    · exact absurd rfl (hactual _ _)
    · obtain ⟨s, hs, h⟩ := bind_eq_ok.1 h
      exact ⟨s, t, hs, ht, Text.contains_iff.1 (Except.ok.inj h)⟩
  · rintro ⟨s, t, hs, ht, h⟩
    refine ⟨t, ht, ?_⟩
    split
    · exact absurd rfl htype
    · exact absurd rfl (hactual _ _)
    · exact bind_eq_ok.2 ⟨s, hs, congrArg Except.ok (Text.contains_iff.2 h)⟩

theorem both_eq_ok_true {test : String → String → Bool} :
    (do return test (← actual.foldedText) (← expected.foldedText)) = (.ok true : Except Failure Bool) ↔
      ∃ s t, actual.foldedText = .ok s ∧ expected.foldedText = .ok t ∧ test s t = true := by
  rw [bind_eq_ok]
  constructor
  · rintro ⟨s, hs, h⟩
    obtain ⟨t, ht, h⟩ := bind_eq_ok.1 h
    exact ⟨s, t, hs, ht, Except.ok.inj h⟩
  · rintro ⟨s, t, hs, ht, h⟩
    exact ⟨s, hs, bind_eq_ok.2 ⟨t, ht, congrArg Except.ok h⟩⟩

/-- An operator that asks for a part compares the folded texts. -/
theorem apply_part (hpart : operator.part? = some part) (htype : type ≠ .array)
    (hraw : ∀ kind items, raw ≠ .collection kind items) (value upper : Operand) (now : Calendar.DateTime) :
    apply operator type raw value upper now = .ok true ↔
      ∃ s t, (stored type raw).foldedText = .ok s ∧ value.toValue.foldedText = .ok t ∧ part t.toList s.toList := by
  cases operator <;> cases hpart
  · exact holds_eq_ok_true htype (stored_ne_collection htype hraw)
  · simp only [← Text.startsWith_iff]
    exact both_eq_ok_true
  · simp only [← Text.endsWith_iff]
    exact both_eq_ok_true

/-- Equality compares the texts as they are. -/
theorem apply_equals (htype : type ≠ .number) (value upper : Operand) (now : Calendar.DateTime) :
    apply .equals type raw value upper now = .ok true ↔
      ∃ s, (stored type raw).comparisonText = .ok s ∧ value.toValue.comparisonText = .ok s := by
  refine (equal_eq_ok htype).trans ?_
  constructor
  · rintro ⟨s, t, hs, ht, h⟩
    obtain rfl := of_decide_eq_true h
    exact ⟨s, hs, ht⟩
  · rintro ⟨s, hs, ht⟩
    exact ⟨s, s, hs, ht, decide_eq_true rfl⟩

end Comparison

/-! ## Conditions on text -/

namespace Condition

variable {catalogue : Catalogue} {c : Condition} {operator : Operator} {part : List Char → List Char → Prop}
  {now : Calendar.DateTime} {record : Value}

/-- A condition that asks for a part holds where its field allows the operator and the value is such a part. -/
theorem holds_part (hpart : operator.part? = some part) (harray : catalogue.fieldType c.field ≠ .array)
    (hsingle : ∀ kind items, record.resolve c.field ≠ .collection kind items) :
    (c.asking operator).holds catalogue now record = true ↔ operator ∈ catalogue.operatorsFor c.field ∧
      ∃ s t, (c.fieldValue catalogue record).foldedText = .ok s ∧ c.value.toValue.foldedText = .ok t ∧
        part t.toList s.toList := by
  have honDates : operator.onDates = operator := by cases operator <;> cases hpart <;> rfl
  exact (holds_iff_apply (c := c.asking operator) rfl honDates).trans
    (and_congr_right fun _ => Comparison.apply_part hpart harray hsingle _ _ _)

theorem foldedText_of_isBlank {o : Operand} (h : o.isBlank = true) : o.toValue.foldedText = .ok "" := by
  cases o with
  | null => rfl
  | text s =>
    obtain rfl := of_decide_eq_true h
    rfl
  | _ => cases h

/-- On fields that hold neither numbers nor lists, and for values that are no collections: a value that is equal is one
that the text starts with and one that it ends with, and what it starts or ends with it holds; a blank value is a part
of every text; and values with the same folded text are the same parts. -/
theorem textOperators_nested (hnumber : catalogue.fieldType c.field ≠ .number)
    (harray : catalogue.fieldType c.field ≠ .array)
    (hsingle : ∀ kind items, record.resolve c.field ≠ .collection kind items) (now : Calendar.DateTime) :
    (∀ operator ∈ [.startsWith, .endsWith], operator ∈ catalogue.operatorsFor c.field →
      (c.asking .equals).holds catalogue now record = true →
        (c.asking operator).holds catalogue now record = true) ∧
    (.contains ∈ catalogue.operatorsFor c.field → ∀ operator ∈ [.startsWith, .endsWith],
      (c.asking operator).holds catalogue now record = true →
        (c.asking .contains).holds catalogue now record = true) ∧
    (∀ operator ∈ [.startsWith, .endsWith, .contains], operator ∈ catalogue.operatorsFor c.field →
      (record.resolve c.field).HasText → c.value.isBlank = true →
        (c.asking operator).holds catalogue now record = true) ∧
    (∀ operator ∈ [.startsWith, .endsWith, .contains], ∀ value : Operand,
      value.toValue.foldedText = c.value.toValue.foldedText →
        ({ c with value }.asking operator).holds catalogue now record =
          (c.asking operator).holds catalogue now record) := by
  have hparts : ∀ operator ∈ [Operator.startsWith, .endsWith, .contains], ∃ part, operator.part? = some part := by
    simp [Operator.part?]
  have hends : ∀ operator ∈ [Operator.startsWith, .endsWith], ∃ part, operator.part? = some part := by
    simp [Operator.part?]
  refine ⟨fun operator hmem hallowed hequal => ?_, fun hallowed operator hmem hholds => ?_,
    fun operator hmem hallowed htext hblank => ?_, fun operator hmem value hvalue => ?_⟩
  · obtain ⟨part, hpart⟩ := hends operator hmem
    obtain ⟨-, happly⟩ := (holds_iff_apply (c := c.asking .equals) rfl rfl).1 hequal
    obtain ⟨s, hs, ht⟩ := (Comparison.apply_equals hnumber _ _ _).1 happly
    refine (holds_part hpart harray hsingle).2 ⟨hallowed, Text.lower s, Text.lower s, ?_, ?_,
      Operator.part_self hpart _⟩
    · exact congrArg (Except.map Text.lower) hs
    · exact congrArg (Except.map Text.lower) ht
  · obtain ⟨part, hpart⟩ := hends operator hmem
    obtain ⟨-, s, t, hs, ht, h⟩ := (holds_part hpart harray hsingle).1 hholds
    exact (holds_part rfl harray hsingle).2 ⟨hallowed, s, t, hs, ht, Operator.part_infix hpart h⟩
  · obtain ⟨part, hpart⟩ := hparts operator hmem
    obtain ⟨s, hs⟩ := (Comparison.hasText_stored htext).foldedText
    exact (holds_part hpart harray hsingle).2 ⟨hallowed, s, "", hs, foldedText_of_isBlank hblank,
      Operator.part_nil hpart _⟩
  · obtain ⟨part, hpart⟩ := hparts operator hmem
    rw [Bool.eq_iff_iff, holds_part (c := { c with value }) hpart harray hsingle, holds_part hpart harray hsingle,
      hvalue]
    rfl

/-- A word in capitals ends in a sigma that has another small form at the end of a word than within one. -/
theorem textOperators_nested_sigma :
    let c : Condition := ⟨"c", "source", .known .equals, .text "ΟΔΟΣ", .null⟩
    let record : Value := .ofFields [("source", .text "ΟΔΟΣ")]
    (Catalogue.contact.fieldType c.field ≠ .number ∧ Catalogue.contact.fieldType c.field ≠ .array ∧
      (∀ kind items, record.resolve c.field ≠ .collection kind items) ∧
      (∀ operator ∈ [.startsWith, .endsWith, .contains], operator ∈ Catalogue.contact.operatorsFor c.field) ∧
      (c.asking .equals).holds .contact default record = true ∧
      (Value.text "οδος").foldedText = (Value.text "ΟΔΟΣ").foldedText) ∧
    (c.asking .startsWith).holds .contact default record = true ∧
    (c.asking .contains).holds .contact default record = true ∧
    ({ c with value := .null }.asking .endsWith).holds .contact default record = true ∧
    ({ c with value := .text "οδος" }.asking .startsWith).holds .contact default record = true := by
  intro c record
  have hnumber : Catalogue.contact.fieldType c.field ≠ .number := by decide
  have harray : Catalogue.contact.fieldType c.field ≠ .array := by decide
  have hvalue : record.resolve c.field = .text "ΟΔΟΣ" := by rfl
  have hsingle : ∀ kind items, record.resolve c.field ≠ .collection kind items := by
    rw [hvalue]
    nofun
  have hallowed : ∀ operator ∈ [.startsWith, .endsWith, .contains],
      operator ∈ Catalogue.contact.operatorsFor c.field := by decide
  have hequal : (c.asking .equals).holds .contact default record = true := by decide +kernel
  have hfolded : (Value.text "οδος").foldedText = (Value.text "ΟΔΟΣ").foldedText := by decide +kernel
  obtain ⟨hstarts, hholds, -, hsame⟩ := textOperators_nested hnumber harray hsingle default
  obtain ⟨-, -, hblank, -⟩ := textOperators_nested (c := { c with value := .null }) hnumber harray hsingle default
  have hstart := hstarts .startsWith (by decide) (hallowed _ (by decide)) hequal
  refine ⟨⟨hnumber, harray, hsingle, hallowed, hequal, hfolded⟩, hstart,
    hholds (hallowed _ (by decide)) .startsWith (by decide) hstart,
    hblank .endsWith (by decide) (hallowed _ (by decide)) (by rw [hvalue]; exact ⟨_, rfl⟩) rfl, ?_⟩
  rw [hsame .startsWith (by decide) (.text "οδος") hfolded]
  exact hstart

end Condition

end Segmentation
