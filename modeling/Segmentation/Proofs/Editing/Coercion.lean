import Segmentation.Editing.Condition
import Segmentation.Proofs.Value.Text

/-!
# What editor input becomes

* `Operand.ofNumberText`: the operand that a text stands for where a number is asked for.
* `Operand.ofNumberInput_eq_ok`: there numbers stay what they are, and other input is read by a text.
* `Condition.TakesNumber`: the condition asks for a number.
* `Condition.coerce_list`, `Condition.coerce_number`, `Condition.coerce_text`: the three kinds of operands that a
  condition can ask for.
* `Condition.coerce_eq_ok`: what an operand can be, and `Condition.exists_coerce`: input that has a text becomes one.
* `Condition.setValue_eq_ok`, `Condition.setValue2_eq_ok`: what the two setters do with it.
-/

namespace Segmentation

/-- The value is neither nothing nor a flag nor a number, so that its text decides for which number it stands. -/
def Value.IsSpelled : Value → Prop
  | null | bool _ | int _ | float _ => False
  | _ => True

namespace Operand

/-- The operand for a number that was read, an integer if it is one. -/
def ofNumber (x : Binary64) : Operand :=
  if x.isIntegral then int x.truncate else float x

/-- The operand for a text where a number is asked for. -/
def ofNumberText (s : String) : Operand :=
  match Binary64.ofText? (Text.trim s) with
  | some x => ofNumber x
  | none => text ""

theorem ofNumberText_some {s : String} {x : Binary64} (h : Binary64.ofText? (Text.trim s) = some x) :
    ofNumberText s = ofNumber x := by
  rw [ofNumberText, h]

theorem ofNumberText_none {s : String} (h : Binary64.ofText? (Text.trim s) = none) : ofNumberText s = text "" := by
  rw [ofNumberText, h]

theorem ofNumberText_empty : ofNumberText "" = text "" :=
  ofNumberText_none (by decide)

/-- Other input than numbers and flags is read by its text. -/
theorem ofNumberInput_of_isSpelled {raw : Value} (hraw : raw.IsSpelled) :
    ofNumberInput raw = raw.toText.map ofNumberText := by
  unfold ofNumberInput
  split
  · exact hraw.elim
  · exact hraw.elim
  · exact hraw.elim
  · exact hraw.elim
  · cases raw.toText with
    | error cause => rfl
    | ok s =>
      change _ = Except.ok (ofNumberText s)
      unfold ofNumberText ofNumber
      simp only [bind, Except.bind]
      cases Binary64.ofText? (Text.trim s) with
      | none => rfl
      | some x => rfl

theorem ofNumberInput_text (s : String) : ofNumberInput (.text s) = .ok (ofNumberText s) := by
  have hspelled : (Value.text s).IsSpelled := trivial
  rw [ofNumberInput_of_isSpelled hspelled]
  rfl

/-- Numbers stay what they are, and other input becomes what some text stands for. -/
theorem ofNumberInput_eq_ok {raw : Value} {o : Operand} (h : ofNumberInput raw = .ok o) :
    (∃ n, raw = .int n ∧ int n = o) ∨ (∃ x, raw = .float x ∧ float x = o) ∨ ∃ s, ofNumberText s = o := by
  by_cases hspelled : raw.IsSpelled
  · rw [ofNumberInput_of_isSpelled hspelled] at h
    obtain ⟨s, -, hs⟩ := map_eq_ok.1 h
    exact .inr (.inr ⟨s, hs⟩)
  · cases raw with
    | null | bool b =>
      cases h
      exact .inr (.inr ⟨"", ofNumberText_empty⟩)
    | int n =>
      cases h
      exact .inl ⟨n, rfl, rfl⟩
    | float x =>
      cases h
      exact .inr (.inl ⟨x, rfl, rfl⟩)
    | _ => exact absurd trivial hspelled

/-- Input that stands for no number, or for nothing, is no failure. -/
theorem exists_ofNumberInput {raw : Value} (hraw : raw.HasText) : ∃ o, ofNumberInput raw = .ok o := by
  by_cases hspelled : raw.IsSpelled
  · obtain ⟨s, hs⟩ := hraw
    exact ⟨ofNumberText s, by rw [ofNumberInput_of_isSpelled hspelled, hs]; rfl⟩
  · cases raw with
    | null => exact ⟨_, rfl⟩
    | bool b => exact ⟨_, rfl⟩
    | int n => exact ⟨_, rfl⟩
    | float x => exact ⟨_, rfl⟩
    | _ => exact absurd trivial hspelled

theorem exists_ofListInput {raw : Value} (hraw : raw.HasText) : ∃ items, ofListInput raw = .ok items := by
  unfold ofListInput
  split
  · exact ⟨_, rfl⟩
  · exact ⟨_, rfl⟩
  · exact exists_mapM_eq_ok hraw.members
  · exact exists_bind_eq_ok hraw fun s => ⟨_, rfl⟩

end Operand

namespace Condition

variable {catalogue : Catalogue} {c : Condition} {raw : Value}

/-- The condition asks for a number: for one of the field, or for a number of days. -/
def TakesNumber (catalogue : Catalogue) (c : Condition) : Prop :=
  c.operator.takesList = false ∧ (catalogue.fieldType c.field = .number ∨ c.operator.countsDays = true)

theorem coerce_list (hlist : c.operator.takesList = true) (raw : Value) :
    c.coerce catalogue raw = (Operand.ofListInput raw).map .texts :=
  if_pos hlist

theorem coerce_number (hnumber : c.TakesNumber catalogue) (raw : Value) :
    c.coerce catalogue raw = Operand.ofNumberInput raw := by
  unfold coerce
  rw [hnumber.1, if_neg Bool.false_ne_true, if_pos hnumber.2]

theorem coerce_text (hlist : c.operator.takesList = false) (hnumber : ¬ c.TakesNumber catalogue)
    (hraw : raw ≠ .null) : c.coerce catalogue raw = raw.toText.map .text := by
  unfold coerce
  rw [hlist, if_neg Bool.false_ne_true, if_neg fun h => hnumber ⟨hlist, h⟩]
  split
  · exact absurd rfl hraw
  · rfl

/-- Where no number is asked for, no input makes a blank text. -/
theorem coerce_null (hlist : c.operator.takesList = false) (hnumber : ¬ c.TakesNumber catalogue) :
    c.coerce catalogue .null = .ok (.text "") := by
  unfold coerce
  rw [hlist, if_neg Bool.false_ne_true, if_neg fun h => hnumber ⟨hlist, h⟩]

/-- Where no number is asked for, input becomes a text or a list of texts. -/
theorem coerce_eq_ok {o : Operand} (h : c.coerce catalogue raw = .ok o) :
    c.TakesNumber catalogue ∧ Operand.ofNumberInput raw = .ok o ∨
      ¬ c.TakesNumber catalogue ∧ ((∃ s, o = .text s) ∨ ∃ items, o = .texts items) := by
  by_cases hnumber : c.TakesNumber catalogue
  · exact .inl ⟨hnumber, (coerce_number hnumber raw).symm.trans h⟩
  · refine .inr ⟨hnumber, ?_⟩
    cases hlist : c.operator.takesList with
    | true =>
      rw [coerce_list hlist] at h
      obtain ⟨items, -, rfl⟩ := map_eq_ok.1 h
      exact .inr ⟨items, rfl⟩
    | false =>
      by_cases hnull : raw = .null
      · rw [hnull, coerce_null hlist hnumber] at h
        cases h
        exact .inl ⟨"", rfl⟩
      · rw [coerce_text hlist hnumber hnull] at h
        obtain ⟨s, -, rfl⟩ := map_eq_ok.1 h
        exact .inl ⟨s, rfl⟩

/-- Input that has a text becomes an operand. -/
theorem exists_coerce (catalogue : Catalogue) (c : Condition) (hraw : raw.HasText) :
    ∃ o, c.coerce catalogue raw = .ok o := by
  by_cases hlist : c.operator.takesList = true
  · obtain ⟨items, hitems⟩ := Operand.exists_ofListInput hraw
    exact ⟨.texts items, by rw [coerce_list hlist, hitems]; rfl⟩
  · rw [Bool.not_eq_true] at hlist
    by_cases hnumber : c.TakesNumber catalogue
    · rw [coerce_number hnumber]
      exact Operand.exists_ofNumberInput hraw
    · by_cases hnull : raw = .null
      · exact ⟨_, hnull ▸ coerce_null hlist hnumber⟩
      · obtain ⟨s, hs⟩ := hraw
        exact ⟨.text s, by rw [coerce_text hlist hnumber hnull, hs]; rfl⟩

/-! ## The two setters -/

variable {c' : Condition}

theorem setValue_eq_ok :
    c.setValue catalogue raw = .ok c' ↔ ∃ o, c.coerce catalogue raw = .ok o ∧ { c with value := o } = c' := by
  rw [setValue, bind_eq_ok]
  exact exists_congr fun o => and_congr_right' ⟨Except.ok.inj, congrArg Except.ok⟩

theorem setValue2_eq_ok :
    c.setValue2 catalogue raw = .ok c' ↔ ∃ o, c.coerce catalogue raw = .ok o ∧
      { c with value2 := if o = .text "" then .null else o } = c' := by
  rw [setValue2, bind_eq_ok]
  exact exists_congr fun o => and_congr_right' ⟨Except.ok.inj, congrArg Except.ok⟩

end Condition

end Segmentation
