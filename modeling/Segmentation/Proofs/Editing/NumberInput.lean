import Segmentation.Proofs.Editing.StoredInput
import Segmentation.Proofs.Evaluation.Failures
import Segmentation.Proofs.Number.Written

/-!
# Numbers that are typed and numbers that are compared

Where a number is asked for, the editor makes an operand of its input, and conditions read numbers off operands and
off values in their own way.

* `Value.SameReading`: two readings as a number agree.
* `Value.number?_decimal`: a decimal is read as its text is.
* `Operand.number?_ofNumberText`: the operand that the editor makes of a text is read as the text is.
* `Value.IsNumberInput`, `Value.IsUnwritableList`: the input that the editor takes, and the lists among it for which
  it fails.
* `Operand.number?_ofNumberInput`: all other input is read as the operand that the editor makes of it is.
-/

namespace Segmentation

namespace Value

/-- Both readings are numbers of one value, or neither is one, or they fail for one cause. -/
inductive SameReading : Except Failure (Option Binary64) → Except Failure (Option Binary64) → Prop where
  | number {x y : Binary64} (h : x.sameValue y = true) : SameReading (.ok (some x)) (.ok (some y))
  | nothing : SameReading (.ok none) (.ok none)
  | failure (cause : Failure) : SameReading (.error cause) (.error cause)

theorem sameValue_self {x : Binary64} (hx : x.isNan = false) : x.sameValue x = true := by
  simp [Binary64.sameValue, hx]

theorem sameReading_comparable (x : Binary64) : SameReading (.ok (comparable x)) (.ok (comparable x)) := by
  unfold comparable
  cases hx : x.isNan with
  | true => exact .nothing
  | false => exact .number (sameValue_self hx)

theorem sameReading_int (n : Int) : SameReading (int n).number? (int n).number? := by
  unfold number?
  dsimp only
  split
  · exact .number (sameValue_self (Binary64.isNan_ofInt n))
  · exact .failure .numberTooLarge

/-- A decimal that does not signal is read as its text is. -/
theorem number?_decimal {d : Decimal} (hd : ∀ negative payload, d ≠ .nan negative true payload) :
    (decimal d).number? = (text d.text).number? := by
  cases d with
  | finite negative n exp =>
    rw [number?, number?, Decimal.ofText?_text]
    rfl
  | infinite negative =>
    rw [number?, number?, Decimal.ofText?_text_infinite]
    rfl
  | nan negative signalling payload =>
    cases signalling with
    | true => exact absurd rfl (hd negative payload)
    | false =>
      have hnan := Decimal.ofText?_text_nan negative payload
      rw [number?, number?]
      cases hread : Binary64.ofText? (Text.trim (Decimal.nan negative false payload).text) with
      | none => rfl
      | some x =>
        rw [hnan x hread]
        rfl

/-- The input that the editor takes where a number is asked for. -/
def IsNumberInput : Value → Prop
  | null | bool _ | int _ | float _ | text _ | collection .list _ => True
  | decimal d => ∀ negative payload, d ≠ .nan negative true payload
  | _ => False

/-- A list with an integer in it that is too long to be written. -/
def IsUnwritableList (v : Value) : Prop :=
  (∃ items, v = collection .list items) ∧ ¬ v.HasText

theorem isUnwritableList_longList : longList.IsUnwritableList :=
  ⟨⟨_, rfl⟩, fun htext => not_hasText_longest (hasText_int_iff.1 (htext.members _ List.mem_cons_self))⟩

end Value

namespace Operand

open Value (SameReading comparable)

variable {raw : Value}

/-- An integral number that becomes an integer is read as the number again. -/
theorem number?_ofNumber (x : Binary64) : SameReading (ofNumber x).toValue.number? (.ok (comparable x)) := by
  unfold ofNumber
  cases hintegral : x.isIntegral with
  | true =>
    have hfinite := Binary64.isFinite_of_isIntegral hintegral
    obtain ⟨hround, hposition⟩ := Binary64.ofInt_of_position hfinite (Binary64.position_of_isIntegral hintegral)
    have hnan := Binary64.isNan_of_isFinite hfinite
    have hint : (int x.truncate).toValue.number? = .ok (some (Binary64.ofInt x.truncate)) := if_pos hround
    have hcomparable : comparable x = some x := by rw [comparable, hnan, if_neg Bool.false_ne_true]
    rw [if_pos rfl, hint, hcomparable]
    refine .number ?_
    simp [Binary64.sameValue, Binary64.isNan_of_isFinite hround, hnan, hposition]
  | false => exact Value.sameReading_comparable x

/-- The operand that the editor makes of a text is read as the text is. -/
theorem number?_ofNumberText (s : String) :
    SameReading (ofNumberText s).toValue.number? (Value.text s).number? := by
  rw [Value.number?]
  cases hread : Binary64.ofText? (Text.trim s) with
  | none =>
    have hblank : (text "").toValue.number? = .ok none := rfl
    rw [ofNumberText_none hread, hblank]
    exact .nothing
  | some x =>
    rw [ofNumberText_some hread]
    exact number?_ofNumber x

/-- Input with a text is read as the operand if it is read as its text. -/
theorem number?_ofNumberInput_of_isSpelled {s : String} (hraw : raw.IsSpelled) (hs : raw.toText = .ok s)
    (hread : raw.number? = (Value.text s).number?) :
    ∃ o, ofNumberInput raw = .ok o ∧ SameReading o.toValue.number? raw.number? := by
  refine ⟨ofNumberText s, ?_, ?_⟩
  · rw [ofNumberInput_of_isSpelled hraw, hs]
    rfl
  · rw [hread]
    exact number?_ofNumberText s

/-- The text of a list is that of no number. -/
theorem number?_listText {items : List Value} {s : String}
    (hs : (Value.collection .list items).toText = .ok s) : (Value.text s).number? = .ok none := by
  obtain ⟨cs, hcs⟩ := Value.exists_bracket hs
  rw [Value.number?, Binary64.ofText?_bracket hcs]
  rfl

/-- For a list that cannot be written the editor fails, where conditions find no number. -/
theorem ofNumberInput_of_isUnwritableList (hraw : raw.IsUnwritableList) :
    ofNumberInput raw = .error .integerTooLong ∧ raw.number? = .ok none := by
  obtain ⟨⟨items, rfl⟩, htext⟩ := hraw
  have hspelled : (Value.collection .list items).IsSpelled := trivial
  refine ⟨?_, rfl⟩
  rw [ofNumberInput_of_isSpelled hspelled]
  cases hs : (Value.collection .list items).toText with
  | ok s => exact absurd ⟨s, hs⟩ htext
  | error cause =>
    rw [List.mem_singleton.1 (Value.toText_failsOnly _ cause hs)]
    rfl

/-- The editor and the conditions read one number off the input: the operand that the editor makes of it is read as
the input itself. Only for a list that cannot be written the editor fails, where conditions find no number. -/
theorem number?_ofNumberInput (hraw : raw.IsNumberInput) :
    (¬ raw.IsUnwritableList →
        ∃ o, ofNumberInput raw = .ok o ∧ SameReading o.toValue.number? raw.number?) ∧
      (raw.IsUnwritableList → ofNumberInput raw = .error .integerTooLong ∧ raw.number? = .ok none) := by
  constructor
  · intro hwritable
    cases raw with
    | null => exact ⟨text "", rfl, .nothing⟩
    | bool b => exact ⟨text "", rfl, .nothing⟩
    | int n => exact ⟨int n, rfl, Value.sameReading_int n⟩
    | float x => exact ⟨float x, rfl, Value.sameReading_comparable x⟩
    | text s => exact number?_ofNumberInput_of_isSpelled trivial rfl rfl
    | decimal d => exact number?_ofNumberInput_of_isSpelled trivial rfl (Value.number?_decimal hraw)
    | collection kind items =>
      cases kind with
      | list =>
        have htext : (Value.collection .list items).HasText :=
          not_not.1 fun h => hwritable ⟨⟨items, rfl⟩, h⟩
        obtain ⟨s, hs⟩ := htext
        exact number?_ofNumberInput_of_isSpelled trivial hs (number?_listText hs).symm
      | _ => exact hraw.elim
    | _ => exact hraw.elim
  · exact ofNumberInput_of_isUnwritableList

/-- Minus two and a half as a decimal is typed and compared as one number, and a list with a long integer fails where
it is typed. -/
theorem number?_ofNumberInput_decimal :
    let raw : Value := .decimal (.finite true 25 (-1))
    (raw.IsNumberInput ∧ ¬ raw.IsUnwritableList ∧
        ∃ o, ofNumberInput raw = .ok o ∧ SameReading o.toValue.number? raw.number?) ∧
      Value.longList.IsNumberInput ∧ Value.longList.IsUnwritableList ∧
        ofNumberInput Value.longList = .error .integerTooLong := by
  intro raw
  have hraw : raw.IsNumberInput := fun negative payload h => by cases h
  have hwritable : ¬ raw.IsUnwritableList := by
    rintro ⟨⟨items, hitems⟩, -⟩
    exact Value.noConfusion hitems
  have hlong : Value.longList.IsNumberInput := trivial
  exact ⟨⟨hraw, hwritable, (number?_ofNumberInput hraw).1 hwritable⟩, hlong, Value.isUnwritableList_longList,
    ((number?_ofNumberInput hlong).2 Value.isUnwritableList_longList).1⟩

/-- So typing is not always followed by the same reading. -/
theorem not_sameReading_longList :
    Value.longList.IsNumberInput ∧
      ¬ SameReading (ofNumberInput Value.longList >>= fun o => o.toValue.number?) Value.longList.number? := by
  obtain ⟨hfails, hnone⟩ := ofNumberInput_of_isUnwritableList Value.isUnwritableList_longList
  refine ⟨trivial, ?_⟩
  rw [hfails, hnone]
  nofun

end Operand

end Segmentation
