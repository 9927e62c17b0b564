import Segmentation.Evaluation.Comparison
import Segmentation.Proofs.Editing.Coercion
import Segmentation.Proofs.Editing.Step

/-!
# The kinds of operands

* `Condition.operandKind`: what the operator and the field of a condition ask for together.
* `Condition.coerce_eq_read`: editor input is read as an operand of that kind, and of nothing else.
* `ConditionEdit.apply_wellTyped`: an edit that is offered keeps both operands of the kind that is asked for.
* `Condition.edits_wellTyped`: so do all runs of them, and what was coerced once is left alone.
-/

namespace Segmentation

/-- The kinds of operands that conditions ask for. -/
inductive OperandKind where
  | list
  | number
  | text
deriving DecidableEq

/-- Where a number is asked for, a blank text stands for none. -/
inductive Operand.Fits : OperandKind → Operand → Prop where
  | texts (items : List String) : Fits .list (.texts items)
  | int (n : Int) : Fits .number (.int n)
  | float (x : Binary64) : Fits .number (.float x)
  | noNumber : Fits .number (.text "")
  | text (s : String) : Fits .text (.text s)

/-- The operand for a text; no input makes a blank one. -/
def Operand.ofTextInput (raw : Value) : Except Failure Operand :=
  match raw with
  | .null => .ok (text "")
  | v => v.toText.map text

/-- The operand for editor input where one of the kind is asked for. -/
def OperandKind.read (raw : Value) : OperandKind → Except Failure Operand
  | list => (Operand.ofListInput raw).map .texts
  | number => Operand.ofNumberInput raw
  | text => Operand.ofTextInput raw

/-- The operator decides first, then the type of the field. -/
def Condition.operandKind (catalogue : Catalogue) (c : Condition) : OperandKind :=
  if c.operator.takesList then .list
  else if catalogue.fieldType c.field = .number ∨ c.operator.countsDays then .number
  else .text

/-! ## Reading operands of a kind -/

namespace Operand

variable {kind : OperandKind} {o : Operand} {raw : Value}

theorem ofNumberText_fits (s : String) : (ofNumberText s).Fits .number := by
  unfold ofNumberText ofNumber
  split
  · split
    · exact .int _
    · exact .float _
  · exact .noNumber

theorem fits_of_ofNumberInput (h : ofNumberInput raw = .ok o) : o.Fits .number := by
  rcases ofNumberInput_eq_ok h with ⟨n, -, rfl⟩ | ⟨x, -, rfl⟩ | ⟨s, rfl⟩
  · exact .int n
  · exact .float x
  · exact ofNumberText_fits s

theorem fits_of_ofTextInput (h : ofTextInput raw = .ok o) : o.Fits .text := by
  unfold ofTextInput at h
  split at h
  · cases h
    exact .text ""
  · obtain ⟨s, -, rfl⟩ := map_eq_ok.1 h
    exact .text s

theorem fits_of_read (h : kind.read raw = .ok o) : o.Fits kind := by
  cases kind with
  | list =>
    rw [OperandKind.read, map_eq_ok] at h
    obtain ⟨items, -, rfl⟩ := h
    exact .texts items
  | number => exact fits_of_ofNumberInput h
  | text => exact fits_of_ofTextInput h

theorem ofListInput_texts (items : List String) : ofListInput (texts items).toValue = .ok items := by
  refine mapM_eq_ok_iff.2 ?_
  rw [List.map_map]
  rfl

theorem Fits.read_toValue (h : o.Fits kind) : kind.read o.toValue = .ok o := by
  cases h with
  | texts items =>
    rw [OperandKind.read, ofListInput_texts]
    rfl
  | int n => rfl
  | float x => rfl
  | noNumber => rw [OperandKind.read, toValue, ofNumberInput_text, ofNumberText_empty]
  | text s => rfl

end Operand

namespace Condition

variable {catalogue : Catalogue} {c : Condition} {raw : Value} {o : Operand}

theorem coerce_eq_read (catalogue : Catalogue) (c : Condition) (raw : Value) :
    c.coerce catalogue raw = (c.operandKind catalogue).read raw := by
  unfold coerce operandKind
  split_ifs <;> rfl

theorem operandKind_of_takesList (h : c.operator.takesList = true) : c.operandKind catalogue = .list :=
  if_pos h

end Condition

/-! ## Runs of edits -/

/-- Options are toggled only where the operator is a choice among them. -/
def ConditionEdit.IsOffered (c : Condition) : ConditionEdit → Prop
  | option _ => c.operator = .known .isIn ∨ c.operator = .known .notIn
  | _ => True

/-- The conditions that runs of edits make of new ones, with one catalogue throughout. -/
inductive Condition.EditedWith (catalogue : Catalogue) : Condition → Prop where
  | new (id : String) : EditedWith catalogue (create catalogue id)
  | edited {edit : ConditionEdit} {c c' : Condition} (hc : EditedWith catalogue c) (hoffered : edit.IsOffered c)
      (h : edit.apply catalogue c = some c') : EditedWith catalogue c'

/-- Both operands are of the kind that the condition asks for, if there are any: a blank text stands for no value, and
there is no upper bound but a real one. -/
structure Condition.WellTyped (catalogue : Catalogue) (c : Condition) : Prop where
  value : c.value = .text "" ∨ c.value.Fits (c.operandKind catalogue)
  value2 : c.value2 = .null ∨ c.value2 ≠ .text "" ∧ c.value2.Fits (c.operandKind catalogue)

namespace Condition

variable {catalogue : Catalogue} {c : Condition} {raw : Value} {o : Operand}

/-- Whatever the operator and the field are changed to. -/
theorem wellTyped_cleared {id field : String} {operator : OperatorName} :
    WellTyped catalogue ⟨id, field, operator, .text "", .null⟩ :=
  ⟨.inl rfl, .inl rfl⟩

theorem fits_of_coerce (h : c.coerce catalogue raw = .ok o) : o.Fits (c.operandKind catalogue) :=
  Operand.fits_of_read ((coerce_eq_read catalogue c raw).symm.trans h)

theorem coerce_toValue (h : c.coerce catalogue raw = .ok o) : c.coerce catalogue o.toValue = .ok o := by
  rw [coerce_eq_read]
  exact (fits_of_coerce h).read_toValue

end Condition

theorem ConditionEdit.apply_wellTyped {catalogue : Catalogue} {edit : ConditionEdit} {c c' : Condition}
    (hoffered : edit.IsOffered c) (h : edit.apply catalogue c = some c') (hc : c.WellTyped catalogue) :
    c'.WellTyped catalogue := by
  cases makes_of_apply h with
  | field key => exact Condition.wellTyped_cleared
  | operator _ _ => exact Condition.wellTyped_cleared
  | value ho => exact ⟨.inr (Condition.fits_of_coerce ho), hc.value2⟩
  | value2 ho =>
    refine ⟨hc.value, ?_⟩
    dsimp only
    split_ifs with hblank
    · exact .inl rfl
    · exact .inr ⟨hblank, Condition.fits_of_coerce ho⟩
  | option choice =>
    -- The operator has a list, so that the choices are of the kind that is asked for.
    have hlist : c.operator.takesList = true := by
      rcases hoffered with hin | hnotIn
      · rw [hin]
        rfl
      · rw [hnotIn]
        rfl
    have hkind : (c.toggleOption choice).operandKind catalogue = .list := Condition.operandKind_of_takesList hlist
    refine ⟨.inr ?_, hc.value2⟩
    rw [hkind]
    exact .texts _

theorem Condition.EditedWith.wellTyped {catalogue : Catalogue} {c : Condition} (h : c.EditedWith catalogue) :
    c.WellTyped catalogue := by
  induction h with
  | new id => exact wellTyped_cleared
  | edited _ hoffered h ih => exact ConditionEdit.apply_wellTyped hoffered h ih

/-- With any catalogue, after any run of edits of a new condition, its operands are blank or of the kind that the
operator and the field ask for now. Coercing what was already coerced for a condition gives it back. -/
theorem Condition.edits_wellTyped (catalogue : Catalogue) :
    (∀ c : Condition, c.EditedWith catalogue → c.WellTyped catalogue) ∧
      ∀ (c : Condition) (raw : Value) (o : Operand),
        c.coerce catalogue raw = .ok o → c.coerce catalogue o.toValue = .ok o :=
  ⟨fun _ h => h.wellTyped, fun _ _ _ h => coerce_toValue h⟩

/-- A catalogue that allows lists and numbers of days on a field of numbers. What was typed as a list, with an option
toggled, is gone after the change of the operator, and what is typed then becomes a number. -/
theorem Condition.edits_wellTyped_lists_on_numbers :
    let catalogue : Catalogue := ⟨[{ key := "score", label := "Score", type := .number }],
      FieldType.all.map fun type => (type, [.isIn, .inLastDays]), by constructor <;> decide⟩
    let listed : Condition := ⟨"c", "score", .known .isIn, .texts ["7", "8", "9"], .null⟩
    let recent : Condition := ⟨"c", "score", .known .inLastDays, .int 30, .null⟩
    (listed.EditedWith catalogue ∧ recent.EditedWith catalogue ∧
      recent.coerce catalogue (.text " 30.0 ") = .ok (.int 30)) ∧
    listed.WellTyped catalogue ∧ recent.WellTyped catalogue ∧
      recent.coerce catalogue (.int 30) = .ok (.int 30) := by
  intro catalogue listed recent
  have hlisted : listed.EditedWith catalogue := by
    have htyped := @EditedWith.edited catalogue (.value (.text "7, 8 ,")) _ { listed with value := .texts ["7", "8"] }
      (.new "c") trivial (by decide +kernel)
    exact @EditedWith.edited catalogue (.option "9") _ _ htyped (.inl rfl) rfl
  have hcoerced : recent.coerce catalogue (.text " 30.0 ") = .ok (.int 30) := by decide +kernel
  have hrecent : recent.EditedWith catalogue := by
    have hcleared := @EditedWith.edited catalogue (.operator "in_last_days") _ { recent with value := .text "" } hlisted
      trivial (by decide +kernel)
    exact @EditedWith.edited catalogue (.value (.text " 30.0 ")) _ _ hcleared trivial (by decide +kernel)
  obtain ⟨hedited, hcoerce⟩ := edits_wellTyped catalogue
  exact ⟨⟨hlisted, hrecent, hcoerced⟩, hedited listed hlisted, hedited recent hrecent,
    hcoerce recent (.text " 30.0 ") (.int 30) hcoerced⟩

end Segmentation
