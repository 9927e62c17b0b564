import Segmentation.Catalogue.Contact
import Segmentation.Proofs.Editing.Coercion
import Segmentation.Proofs.Editing.Step
import Segmentation.Proofs.Rule.Storage
import Segmentation.Proofs.Text
import Segmentation.Proofs.Value.Scalar

/-!
# Editor input and storage

* `Value.FitsAsNumber`: the number that the input stands for, if it stands for one, can be stored.
* `Condition.storable_coerce`: input becomes an operand that can be stored unless a number is asked for and the one
  that it stands for cannot be stored.
* `Condition.Edited`: the conditions that are made anew and edited.
* `Condition.Edited.survives_input`: a tree that holds such a condition survives storage after one more input exactly
  if the tree is shallow, the input fits where a number is asked for, and the other operand can be stored.
-/

namespace Segmentation

/-! ## Lists are no numbers -/

namespace Binary64

theorem ofSigned?_bracket (cs : List Char) : ofSigned? ('[' :: cs) = none := by
  have hnan := ofSigned?_of_noDecimal (show Integer.splitSign ('[' :: cs) = (false, '[' :: cs) from rfl) rfl (by decide)
  exact Option.eq_none_iff_forall_not_mem.2 fun x hx => absurd (hnan x hx).2 (by decide)

/-- A text that begins with a bracket is read as no number. -/
theorem ofText?_bracket {s : String} {cs : List Char} (hs : s.toList = '[' :: cs) :
    ofText? (Text.trim s) = none := by
  obtain ⟨inner, hinner⟩ := Text.exists_trimList_cons (p := Text.isBlank) (c := '[') rfl cs
  obtain ⟨rest, hrest⟩ := Text.exists_trimList_cons (p := Text.isBlank) (c := '[') rfl inner
  have hdigit : Text.digitValue? '[' = none := by decide
  have hascii : Text.asciiDigits ('[' :: rest) = '[' :: Text.asciiDigits rest := by
    rw [Text.asciiDigits, List.map_cons, hdigit]
    rfl
  have hmarked : Integer.withoutUnderscores? false ('[' :: Text.asciiDigits rest) =
      (Integer.withoutUnderscores? false (Text.asciiDigits rest)).map ('[' :: ·) := rfl
  rw [ofText?, Text.trim, hs, hinner, String.toList_ofList, hrest, hascii, hmarked]
  cases Integer.withoutUnderscores? false (Text.asciiDigits rest) with
  | none => rfl
  | some ds => exact ofSigned?_bracket ds

end Binary64

theorem Value.exists_bracket {items : List Value} {s : String} (h : (collection .list items).toText = .ok s) :
    ∃ cs, s.toList = '[' :: cs := by
  obtain ⟨parts, -, h⟩ := bind_eq_ok.1 h
  cases h
  exact ⟨_, by simp [bracketed]; rfl⟩

/-! ## Numbers that can be stored -/

/-- If the input stands for a number, that one can be stored: it is no integer that is too long with its sign, and no
floating-point number without digits. -/
def Value.FitsAsNumber : Value → Prop
  | null | bool _ | collection .list _ => True
  | int n => Integer.IsShort n
  | float x => x.isFinite = true
  | v => ∀ s x, v.toText = .ok s → Binary64.ofText? (Text.trim s) = some x → x.isFinite = true

namespace Operand

variable {o : Operand} {raw : Value} {s : String}

theorem storable_text (s : String) : (text s).Storable :=
  ⟨trivial, trivial⟩

theorem storable_ofNumber (x : Binary64) : (ofNumber x).Storable ↔ x.isFinite = true := by
  unfold ofNumber
  cases hintegral : x.isIntegral with
  | true => exact iff_of_true ⟨x.isShort_truncate, trivial⟩ (Binary64.isFinite_of_isIntegral hintegral)
  | false => exact ⟨fun h => h.isFinite, fun h => ⟨trivial, h⟩⟩

theorem storable_ofNumberText :
    (ofNumberText s).Storable ↔ ∀ x, Binary64.ofText? (Text.trim s) = some x → x.isFinite = true := by
  cases hread : Binary64.ofText? (Text.trim s) with
  | none =>
    rw [ofNumberText_none hread]
    exact iff_of_true (storable_text "") fun x hx => by cases hx
  | some y =>
    rw [ofNumberText_some hread, storable_ofNumber]
    simp

/-- Where a number is asked for, the operand can be stored if the number that the input stands for can. -/
theorem storable_ofNumberInput (h : ofNumberInput raw = .ok o) : o.Storable ↔ raw.FitsAsNumber := by
  have hspelled : raw.IsSpelled → (o.Storable ↔
      ∀ s x, raw.toText = .ok s → Binary64.ofText? (Text.trim s) = some x → x.isFinite = true) := by
    intro hraw
    rw [ofNumberInput_of_isSpelled hraw] at h
    obtain ⟨s, hs, rfl⟩ := map_eq_ok.1 h
    rw [storable_ofNumberText]
    constructor
    · intro hfit s' x hs'
      cases hs.symm.trans hs'
      exact hfit x
    · exact fun hfit x => hfit s x hs
  cases raw with
  | null | bool b =>
    cases h
    exact iff_of_true (storable_text "") trivial
  | int n =>
    cases h
    exact ⟨fun ho => ho.isShort, fun hn => ⟨hn, trivial⟩⟩
  | float x =>
    cases h
    exact ⟨fun ho => ho.isFinite, fun hx => ⟨trivial, hx⟩⟩
  | collection kind items =>
    cases kind with
    | list =>
      refine iff_of_true ((hspelled trivial).2 fun s x hs hx => ?_) trivial
      obtain ⟨cs, hcs⟩ := Value.exists_bracket hs
      cases (Binary64.ofText?_bracket hcs).symm.trans hx
    | _ => exact hspelled trivial
  | _ => exact hspelled trivial

end Operand

namespace Condition

variable {catalogue : Catalogue} {c c' : Condition} {raw : Value} {o : Operand}

/-- Input becomes an operand that can be stored, unless a number is asked for. -/
theorem storable_coerce (h : c.coerce catalogue raw = .ok o) :
    o.Storable ↔ (c.TakesNumber catalogue → raw.FitsAsNumber) := by
  rcases coerce_eq_ok h with ⟨hnumber, h⟩ | ⟨hnumber, ⟨s, rfl⟩ | ⟨items, rfl⟩⟩
  · simp only [hnumber, true_imp_iff]
    exact Operand.storable_ofNumberInput h
  · exact iff_of_true (Operand.storable_text s) fun hnumber' => absurd hnumber' hnumber
  · exact iff_of_true ⟨trivial, trivial⟩ fun hnumber' => absurd hnumber' hnumber

/-! ## Edited conditions -/

/-- The conditions that are made anew and edited, with any input. -/
inductive Edited : Condition → Prop where
  | new (catalogue : Catalogue) (id : String) : Edited (.create catalogue id)
  | edited {catalogue : Catalogue} {edit : ConditionEdit} {c c' : Condition} (hc : Edited c)
      (h : edit.apply catalogue c = some c') : Edited c'

theorem Edited.changeField (hc : c.Edited) (catalogue : Catalogue) (key : String) :
    (c.changeField catalogue key).Edited :=
  @Edited.edited catalogue (.field key) c _ hc rfl

/-- They have a known operator. -/
theorem Edited.settled (hc : c.Edited) : c.Settled := by
  induction hc with
  | new catalogue id => exact OperatorName.ofText_name _
  | edited _ h ih =>
    cases ConditionEdit.makes_of_apply h with
    | field key => exact OperatorName.ofText_name _
    | operator _ _ => exact OperatorName.ofText_name _
    | value ho => exact ih
    | value2 ho => exact ih
    | option choice => exact ih

/-- With one more input the condition can be stored if the input fits and the other operand can be stored. -/
theorem Edited.storable_setValue (hc : c.Edited) (h : c.setValue catalogue raw = .ok c') :
    c'.Storable ↔ c.value2.Storable ∧ (c.TakesNumber catalogue → raw.FitsAsNumber) := by
  obtain ⟨o, ho, rfl⟩ := setValue_eq_ok.1 h
  rw [← storable_coerce ho]
  exact ⟨fun h => ⟨h.value2, h.value⟩, fun h => ⟨hc.settled, h.2, h.1⟩⟩

theorem Edited.storable_setValue2 (hc : c.Edited) (h : c.setValue2 catalogue raw = .ok c') :
    c'.Storable ↔ c.value.Storable ∧ (c.TakesNumber catalogue → raw.FitsAsNumber) := by
  obtain ⟨o, ho, rfl⟩ := setValue2_eq_ok.1 h
  have hcleared : (if o = .text "" then Operand.null else o).Storable ↔ o.Storable := by
    split_ifs with hblank
    · exact iff_of_true ⟨trivial, trivial⟩ (hblank ▸ Operand.storable_text "")
    · rfl
  rw [← storable_coerce ho, ← hcleared]
  exact ⟨fun h => ⟨h.value, h.value2⟩, fun h => ⟨hc.settled, h.1, h.2⟩⟩

/-! ## Trees with an edited condition -/

/-- Input that has a text gives a condition. A tree that holds it, beside conditions that can be stored, survives
storage exactly if the tree is shallow, the other operand can be stored and, where a number is asked for, the input
fits. -/
theorem Edited.survives_input [Limits] (hc : c.Edited) (catalogue : Catalogue) (raw : Value) (indent : Option Nat)
    (supply : IdSupply) :
    (raw.HasText → (∃ c', c.setValue catalogue raw = .ok c') ∧ ∃ c', c.setValue2 catalogue raw = .ok c') ∧
      (∀ c', c.setValue catalogue raw = .ok c' → ∀ t : Group, c' ∈ t.allConditions →
        (∀ d ∈ t.allConditions, d = c' ∨ d.Storable) →
          (t.Survives indent supply ↔ t.IsShallow ∧
            c.value2.Storable ∧ (c.TakesNumber catalogue → raw.FitsAsNumber))) ∧
      ∀ c', c.setValue2 catalogue raw = .ok c' → ∀ t : Group, c' ∈ t.allConditions →
        (∀ d ∈ t.allConditions, d = c' ∨ d.Storable) →
          (t.Survives indent supply ↔ t.IsShallow ∧
            c.value.Storable ∧ (c.TakesNumber catalogue → raw.FitsAsNumber)) := by
  refine ⟨fun hraw => ?_, fun c' h t hmem hothers => ?_, fun c' h t hmem hothers => ?_⟩
  · obtain ⟨o, ho⟩ := exists_coerce catalogue c hraw
    exact ⟨⟨_, setValue_eq_ok.2 ⟨o, ho, rfl⟩⟩, ⟨_, setValue2_eq_ok.2 ⟨o, ho, rfl⟩⟩⟩
  · rw [Group.survives_iff_storable hmem hothers, hc.storable_setValue h]
  · rw [Group.survives_iff_storable hmem hothers, hc.storable_setValue2 h]

/-- Seven and a half as a text is stored as a number, and survives. -/
theorem Edited.survives_input_score :
    let c : Condition := ⟨"c", "lead_score", .known .equals, .text "", .null⟩
    c.Edited ∧ ∃ c', c.setValue .contact (.text "7.5") = .ok c' ∧
      (⟨"g", .and, [c'], []⟩ : Group).Survives (some 2) ⟨0⟩ := by
  intro c
  have hedited : c.Edited := (Edited.new .contact "c").changeField .contact "lead_score"
  obtain ⟨hset, hsurvives, -⟩ := hedited.survives_input .contact (.text "7.5") (some 2) ⟨0⟩
  obtain ⟨c', hc'⟩ := (hset ⟨"7.5", rfl⟩).1
  have hshallow : (⟨"g", .and, [c'], []⟩ : Group).IsShallow :=
    Group.isShallow_of_depth_le (by decide : 1 ≤ 255) (by decide : 4 ≤ 200)
  refine ⟨hedited, c', hc', (hsurvives c' hc' _ List.mem_cons_self ?_).2 ⟨hshallow, ⟨trivial, trivial⟩, fun _ => ?_⟩⟩
  · intro d hd
    exact .inl (List.mem_singleton.1 hd)
  · have hfinite : (Binary64.ofText? (Text.trim "7.5")).all Binary64.isFinite = true := by decide +kernel
    intro s x hs hx
    cases hs
    rw [hx] at hfinite
    exact hfinite

/-- The name of infinity is stored as a number, which does not survive. -/
theorem not_survives_infinite :
    let c : Condition := ⟨"c", "lead_score", .known .equals, .text "", .null⟩
    let stored : Condition := { c with value := .float (.infinite false) }
    c.Edited ∧ c.setValue .contact (.text "inf") = .ok stored ∧
      ¬ (⟨"g", .and, [stored], []⟩ : Group).Survives none ⟨0⟩ := by
  intro c stored
  have hedited : c.Edited := (Edited.new .contact "c").changeField .contact "lead_score"
  refine ⟨hedited, rfl, fun hsurvives => ?_⟩
  have hothers : ∀ d ∈ (⟨"g", .and, [stored], []⟩ : Group).allConditions, d = stored ∨ d.Storable :=
    fun d hd => .inl (List.mem_singleton.1 hd)
  have hstorable := (Group.survives_iff_storable List.mem_cons_self hothers none ⟨0⟩).1 hsurvives
  exact Bool.false_ne_true hstorable.2.value.isFinite

end Condition

end Segmentation
