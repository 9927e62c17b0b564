import Segmentation.Proofs.Number.Layout
import Segmentation.Proofs.Value.Text

/-!
# The two texts of a single value

A single value has the text as which it is written and the text by which it is compared.

* `Binary64.lower_text_ne`: the text of a finite floating-point number is no text of an integer, in small letters
  neither.
* `Value.ComparesAsWritten`: the value is compared by the text as which it is written.
* `Value.comparesAsWritten_iff`: flags and whole floating-point numbers are not; with case ignored flags are.
-/

namespace Segmentation

/-! ## Points and exponents -/

/-- A point or the sign of an exponent, which no integer is written with. -/
def Text.MarksFloat (c : Char) : Prop :=
  c = '.' ∨ c = 'e'

theorem Integer.not_marksFloat {n : Int} {c : Char} (hc : c ∈ digits n) : ¬ Text.MarksFloat c := by
  have hdigit : c = '-' ∨ c.isDigit = true := by
    rcases List.mem_append.1 hc with hsign | hdigits
    · split at hsign
      · exact .inl (List.mem_singleton.1 hsign)
      · cases hsign
    · exact .inr (allDigits_toDigits _ c hdigits)
  rintro (rfl | rfl) <;> revert hdigit <;> decide

namespace Binary64

/-- Every text of a finite number has a point or an exponent. -/
theorem exists_marksFloat_mem_textList (layout : Layout) {x : Binary64} (hx : x.isFinite = true) :
    ∃ c ∈ x.textList layout, Text.MarksFloat c := by
  obtain ⟨negative, p, e, htext, hfits, -⟩ := layout.textList_finite hx
  rw [htext]
  rcases hfits.float with hfraction | hexponent
  · refine ⟨'.', ?_, .inl rfl⟩
    simp [Layout.decimalText, fractionText_of_ne_nil hfraction]
  · obtain ⟨leading, rfl⟩ := Option.ne_none_iff_exists'.1 hexponent
    refine ⟨'e', ?_, .inr rfl⟩
    simp [Layout.decimalText, Layout.exponentText]

end Binary64

/-! ## Small letters -/

namespace Text

/-- The character is its own small form wherever it stands. -/
def KeptByLower (c : Char) : Prop :=
  c ≠ 'Σ' ∧ c ≠ 'İ' ∧ shiftChar lowerShifts c = c

theorem KeptByLower.mem_lower {c : Char} (hkept : KeptByLower c) {s : String} (hc : c ∈ s.toList) :
    c ∈ (lower s).toList := by
  have hfrom : ∀ cs inWord, c ∈ cs → c ∈ lowerFrom inWord cs := by
    intro cs
    induction cs with
    | nil => exact fun _ hc => absurd hc List.not_mem_nil
    | cons d cs ih =>
      intro inWord hc
      rw [lowerFrom]
      rcases List.mem_cons.1 hc with rfl | hc
      · obtain ⟨hsigma, hdot, hshift⟩ := hkept
        rw [lowerChar, if_neg hsigma, if_neg hdot, hshift]
        exact List.mem_append_left _ (List.mem_singleton.2 rfl)
      · exact List.mem_append_right _ (ih _ hc)
  rw [lower, String.toList_ofList]
  exact hfrom _ _ hc

theorem MarksFloat.keptByLower {c : Char} (h : MarksFloat c) : KeptByLower c := by
  rcases h with rfl | rfl
  · exact ⟨by decide, by decide, by decide +kernel⟩
  · exact ⟨by decide, by decide, by decide +kernel⟩

end Text

/-- No text of a finite floating-point number is that of an integer, whether case counts or not. -/
theorem Binary64.lower_text_ne (layout : Layout) {x : Binary64} (hx : x.isFinite = true) (n : Int) :
    Text.lower (x.text layout) ≠ Text.lower (String.ofList (Integer.digits n)) := by
  obtain ⟨c, hc, hmark⟩ := exists_marksFloat_mem_textList layout hx
  have hlower : c ∈ (Text.lower (x.text layout)).toList :=
    hmark.keptByLower.mem_lower (by rwa [text, String.toList_ofList])
  intro heq
  rw [heq, (Integer.onlyNumberChars_digits n).lower, String.toList_ofList] at hlower
  exact Integer.not_marksFloat hlower hmark

/-! ## Scalars -/

theorem Integer.text_eq_ok {n : Int} {s : String} :
    text n = .ok s ↔ HasText n ∧ String.ofList (digits n) = s := by
  unfold text text?
  by_cases hn : HasText n
  · rw [if_pos hn]
    simp [hn]
  · rw [if_neg hn]
    simp [hn]

theorem Binary64.isFinite_of_isIntegral {x : Binary64} (hx : x.isIntegral = true) : x.isFinite = true := by
  cases x with
  | finite negative mant exp hcanonical => rfl
  | nan => cases hx
  | infinite negative => cases hx

namespace Value

/-- A text, an integer, a floating-point number or a flag. -/
def IsScalar : Value → Prop
  | text _ | int _ | float _ | bool _ => True
  | _ => False

theorem IsScalar.isNull {v : Value} (hv : v.IsScalar) : v.isNull = false := by
  cases v with
  | null => exact hv.elim
  | _ => rfl

/-- The scalar has a text, and it is compared by that text; `folded` says that case is ignored. Flags are compared
in small letters, and whole floating-point numbers as integers. -/
def ComparesAsWritten (folded : Bool) : Value → Prop
  | bool _ => folded = true
  | int n => Integer.HasText n
  | float x => x.isIntegral = false
  | _ => True

variable {v : Value} {s t : String}

theorem ComparesAsWritten.hasText {folded : Bool} (hv : v.IsScalar) (h : v.ComparesAsWritten folded) :
    v.HasText := by
  cases v with
  | text s => exact ⟨s, rfl⟩
  | int n =>
    have hn : Integer.HasText n := h
    obtain ⟨s, hs⟩ := Integer.exists_text hn
    exact ⟨s, hs⟩
  | float x => exact ⟨_, rfl⟩
  | bool b => exact ⟨_, rfl⟩
  | _ => exact hv.elim

/-- A whole floating-point number is compared by the text of the integer. -/
theorem comparisonText_of_isIntegral {x : Binary64} (hx : x.isIntegral = true) :
    (float x).comparisonText = .ok (String.ofList (Integer.digits x.truncate)) := by
  unfold comparisonText
  dsimp only
  rw [if_pos hx, Integer.text_eq_ok]
  exact ⟨x.hasText_truncate, rfl⟩

theorem comparisonText_of_not_isIntegral {x : Binary64} (hx : x.isIntegral = false) :
    (float x).comparisonText = (float x).toText := by
  unfold comparisonText
  dsimp only
  rw [if_neg (by simp [hx])]

/-- The text of a scalar and the one by which it is compared are the same exactly for scalars that are compared as
written. -/
theorem comparesAsWritten_iff (hv : v.IsScalar) (hs : v.toText = .ok s) (ht : v.comparisonText = .ok t)
    (folded : Bool) :
    v.ComparesAsWritten folded ↔ (if folded then Text.lower t = Text.lower s else t = s) := by
  cases v with
  | text u =>
    cases hs
    cases ht
    cases folded <;> simp [ComparesAsWritten]
  | int n =>
    have htext : Integer.text n = .ok s := hs
    have hn := (Integer.text_eq_ok.1 htext).1
    cases hs.symm.trans ht
    cases folded <;> simp [ComparesAsWritten, hn]
  | bool b =>
    cases hs
    cases ht
    cases b <;> cases folded <;> simp only [ComparesAsWritten] <;> decide +kernel
  | float x =>
    cases hx : x.isIntegral with
    | false =>
      rw [comparisonText_of_not_isIntegral hx, hs] at ht
      cases ht
      cases folded <;> simp [ComparesAsWritten, hx]
    | true =>
      cases hs
      rw [comparisonText_of_isIntegral hx] at ht
      cases ht
      have hne := Binary64.lower_text_ne .plain (Binary64.isFinite_of_isIntegral hx) x.truncate
      cases folded with
      | true => simpa [ComparesAsWritten, hx] using hne.symm
      | false =>
        simp only [ComparesAsWritten, hx, Bool.true_eq_false, Bool.false_eq_true, if_false, false_iff]
        exact fun heq => hne (congrArg Text.lower heq.symm)
  | _ => exact hv.elim

end Value

end Segmentation
