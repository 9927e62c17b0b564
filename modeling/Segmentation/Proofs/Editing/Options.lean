import Segmentation.Catalogue.Contact
import Segmentation.Editing.Condition
import Segmentation.Proofs.Evaluation.SeveralValues
import Segmentation.Proofs.Evaluation.Verdict

/-!
# Toggling options

* `Condition.mem_selected_toggleOption`: toggling an option adds it to the choices or takes it away.
* `Condition.holds_iff_of_choices`: what is compared with the choices is the text of the field.
* `Condition.Flips`: toggling an option turns the answer round for the records with that text, and no others.
* `Condition.flips_iff`: it does so for all options exactly if the operand is a list or blank. A single value,
  which evaluation takes for a list of one, is dropped instead.
-/

namespace Segmentation

open Calendar

/-- The operand is a list of texts, or there is none yet. -/
def Operand.ListsChoices : Operand → Prop
  | null => True
  | text s => s = ""
  | texts _ => True
  | _ => False

/-- An operand that lists no choices is its own only member. -/
theorem Operand.members_of_not_listsChoices {o : Operand} (h : ¬ o.ListsChoices) :
    o.toValue.members = [o.toValue] := by
  cases o with
  | null => exact absurd trivial h
  | texts items => exact absurd trivial h
  | text s => exact if_neg h
  | _ => rfl

namespace Condition

variable {catalogue : Catalogue} {now : DateTime} {record : Value} {c : Condition} {operator : Operator}
  {choices : List String}

/-- The text of the record's field, with which choices are compared. -/
def fieldText (catalogue : Catalogue) (record : Value) (c : Condition) : Except Failure String :=
  (Comparison.stored (catalogue.fieldType c.field) (record.resolve c.field)).comparisonText

/-- Toggling the option turns the answer round for the records whose field has it as its text, and leaves the
answer for all others. -/
def Flips (catalogue : Catalogue) (c : Condition) (option : String) : Prop :=
  ∀ (now : DateTime) (record : Value),
    (c.fieldText catalogue record = .ok option →
      (c.toggleOption option).holds catalogue now record = !c.holds catalogue now record) ∧
    (c.fieldText catalogue record ≠ .ok option →
      (c.toggleOption option).holds catalogue now record = c.holds catalogue now record)

/-! ## Choices -/

theorem mem_selected_toggleOption (c : Condition) (option t : String) :
    t ∈ (c.toggleOption option).selected ↔ (t = option ↔ t ∉ c.selected) := by
  change t ∈ (if option ∈ c.selected then c.selected.filter (· ≠ option) else c.selected ++ [option]) ↔ _
  split_ifs with hmem
  · by_cases ht : t = option <;> simp [ht, hmem]
  · by_cases ht : t = option <;> simp [ht, hmem]

theorem mapM_comparisonText_text (items : List String) :
    (items.map Value.text).mapM Value.comparisonText = .ok items := by
  induction items with
  | nil => rfl
  | cons s items ih =>
    rw [List.map_cons, List.mapM_cons, ih]
    rfl

/-- The texts of an operand that lists choices are the ones that are selected. -/
theorem mapM_members_of_listsChoices (h : c.value.ListsChoices) :
    c.value.toValue.members.mapM Value.comparisonText = .ok c.selected := by
  unfold selected
  cases hvalue : c.value with
  | null => rfl
  | texts items => exact mapM_comparisonText_text items
  | text s =>
    rw [hvalue] at h
    obtain rfl : s = "" := h
    rfl
  | _ =>
    rw [hvalue] at h
    cases h

/-! ## Answers -/

/-- A condition on choices compares the text of the field with the texts of the members of the operand. -/
theorem holds_iff_of_choices (hadmitted : c.admitted catalogue = .ok operator)
    (hoperator : operator = .isIn ∨ operator = .notIn)
    (hchoices : c.value.toValue.members.mapM Value.comparisonText = .ok choices) :
    c.holds catalogue now record = true ↔
      ∃ t, c.fieldText catalogue record = .ok t ∧ (t ∈ choices ↔ operator = .isIn) := by
  have hamong : ∀ b, Comparison.isAmong (Comparison.stored (catalogue.fieldType c.field)
      (record.resolve c.field)) c.value.toValue = .ok b ↔
        ∃ t, c.fieldText catalogue record = .ok t ∧ decide (t ∈ choices) = b := by
    intro b
    rw [Comparison.isAmong_eq_ok, hchoices]
    constructor
    · rintro ⟨t, ss, ht, hss, hmem⟩
      cases hss
      exact ⟨t, ht, hmem⟩
    · rintro ⟨t, ht, hmem⟩
      exact ⟨t, choices, ht, rfl, hmem⟩
  rw [holds, verdict_of_admitted hadmitted, Verdict.holds_ofAnswer]
  unfold Comparison.apply
  rcases hoperator with rfl | rfl
  · dsimp only
    rw [hamong]
    simp
  · dsimp only
    rw [Comparison.not_eq_ok, hamong]
    simp

/-- Options of an operand that lists choices can be toggled one by one. -/
theorem flips_of_listsChoices (hadmitted : c.admitted catalogue = .ok operator)
    (hoperator : operator = .isIn ∨ operator = .notIn) (hvalue : c.value.ListsChoices) (option : String) :
    c.Flips catalogue option := by
  intro now record
  have hbefore : c.holds catalogue now record = true ↔
      ∃ t, c.fieldText catalogue record = .ok t ∧ (t ∈ c.selected ↔ operator = .isIn) :=
    holds_iff_of_choices hadmitted hoperator (mapM_members_of_listsChoices hvalue)
  -- The field and the operator stay, so that both conditions look at the same text in the same way.
  have hafter : (c.toggleOption option).holds catalogue now record = true ↔
      ∃ t, c.fieldText catalogue record = .ok t ∧ (t ∈ (c.toggleOption option).selected ↔ operator = .isIn) :=
    holds_iff_of_choices (c := c.toggleOption option) hadmitted hoperator
      (mapM_members_of_listsChoices (c := c.toggleOption option) trivial)
  simp only [mem_selected_toggleOption] at hafter
  refine ⟨fun hoption => ?_, fun hother => ?_⟩
  · rw [Bool.eq_iff_iff, Bool.not_eq_true', ← Bool.not_eq_true, hbefore, hafter, hoption]
    simp only [Except.ok.injEq, exists_eq_left', true_iff]
    exact not_iff.symm
  · rw [Bool.eq_iff_iff, hbefore, hafter]
    refine exists_congr fun t => and_congr_right fun ht => ?_
    have hne : t ≠ option := fun heq => hother (heq ▸ ht)
    simp [hne]

/-! ## Single values -/

/-- A record with nothing but a text in the field. -/
theorem fieldText_record (catalogue : Catalogue) (c : Condition) (t : String) :
    c.fieldText catalogue (.record [(c.field, .text t)]) = .ok t := by
  rw [fieldText, Value.resolve_record c.field rfl]
  rfl

/-- Toggling an option of an operand that lists no choices puts the option in its place. -/
theorem toggleOption_single (hvalue : ¬ c.value.ListsChoices) (option : String) :
    c.toggleOption option = { c with value := .texts [option] } := by
  have hnone : c.selected = [] := by
    unfold selected
    split
    · rename_i items heq
      exact absurd (heq ▸ trivial : c.value.ListsChoices) hvalue
    · rfl
  unfold toggleOption
  rw [hnone]
  rfl

/-- A single value is the one choice that evaluation sees, so that toggling its own text puts it back and does
not take it away. -/
theorem not_flips_single (hadmitted : c.admitted catalogue = .ok operator)
    (hoperator : operator = .isIn ∨ operator = .notIn) (hvalue : ¬ c.value.ListsChoices) {t : String}
    (ht : c.value.toValue.comparisonText = .ok t) : ¬ c.Flips catalogue t := by
  have hbefore : c.value.toValue.members.mapM Value.comparisonText = .ok [t] := by
    rw [Operand.members_of_not_listsChoices hvalue, List.mapM_cons, ht]
    rfl
  have hafter : (c.toggleOption t).value.toValue.members.mapM Value.comparisonText = .ok [t] := by
    rw [toggleOption_single hvalue]
    rfl
  have hsame : ∀ now record,
      (c.toggleOption t).holds catalogue now record = c.holds catalogue now record := by
    intro now record
    rw [Bool.eq_iff_iff, holds_iff_of_choices hadmitted hoperator hbefore,
      holds_iff_of_choices (c := c.toggleOption t) hadmitted hoperator hafter]
    rfl
  intro hflips
  have hturned := (hflips default (.record [(c.field, .text t)])).1 (fieldText_record catalogue c t)
  rw [hsame] at hturned
  exact Bool.eq_not_self _ |>.mp hturned

/-- Toggling options changes only the operand. Every option turns the answer round for exactly the records with
its text in the field if and only if the operand is a list or blank. A single value gives way to the option. -/
theorem flips_iff (hadmitted : c.admitted catalogue = .ok operator)
    (hoperator : operator = .isIn ∨ operator = .notIn) (htext : c.value.toValue.HasText) :
    (∀ option, { c.toggleOption option with value := c.value } = c) ∧
      ((∀ option, c.Flips catalogue option) ↔ c.value.ListsChoices) ∧
      (¬ c.value.ListsChoices → ∀ option, c.toggleOption option = { c with value := .texts [option] }) := by
  refine ⟨fun option => rfl, ⟨fun hflips => ?_, fun hvalue => ?_⟩, toggleOption_single⟩
  · by_contra hvalue
    obtain ⟨t, ht⟩ := htext.comparisonText
    exact not_flips_single hadmitted hoperator hvalue ht (hflips t)
  · exact flips_of_listsChoices hadmitted hoperator hvalue

/-- A list in which one option stands twice. -/
theorem flips_bounced :
    let c : Condition := ⟨"c", "status", .known .notIn, .texts ["bounced", "active", "bounced"], .null⟩
    (c.admitted .contact = .ok .notIn ∧ c.value.toValue.HasText) ∧
      (∀ option, c.Flips .contact option) ∧ (c.toggleOption "bounced").value = .texts ["active"] := by
  intro c
  have hadmitted : c.admitted .contact = .ok .notIn := by decide
  have htext : c.value.toValue.HasText := ⟨_, rfl⟩
  exact ⟨⟨hadmitted, htext⟩, (flips_iff hadmitted (.inr rfl) htext).2.1.2 trivial, rfl⟩

/-- Toggling another option drops the single value, and toggling the value itself keeps it. -/
theorem not_flips_active :
    let c : Condition := ⟨"c", "status", .known .isIn, .text "active", .null⟩
    let record : Value := .ofFields [("status", .text "active")]
    c.fieldText .contact record = .ok "active" ∧ c.holds .contact default record = true ∧
      (c.toggleOption "bounced").holds .contact default record = false ∧
      (c.toggleOption "active").holds .contact default record = true ∧
      ¬ c.Flips .contact "bounced" ∧ ¬ c.Flips .contact "active" := by
  intro c record
  have htext : c.fieldText .contact record = .ok "active" := rfl
  have hbefore : c.holds .contact default record = true := by decide +kernel
  have hother : (c.toggleOption "bounced").holds .contact default record = false := by decide +kernel
  have hown : (c.toggleOption "active").holds .contact default record = true := by decide +kernel
  refine ⟨htext, hbefore, hother, hown, fun hflips => ?_, fun hflips => ?_⟩
  · have hkept := (hflips default record).2 (by rw [htext]; simp)
    rw [hbefore, hother] at hkept
    cases hkept
  · have hturned := (hflips default record).1 htext
    rw [hbefore, hown] at hturned
    cases hturned

end Condition

end Segmentation
