import Segmentation.Proofs.Number.Layout
import Segmentation.Proofs.Yaml.Taking
import Segmentation.Yaml.Scalar

/-!
# Numbers in a YAML text

* `Scalar.isValueWord_digits`, `Scalar.isValueWord_textList`: numbers are words that can stand for a value.
* `Scalar.tagOf_digits`, `Scalar.read_digits`: an integer is recognised and read as it was written.
* `Scalar.tagOf_textList`, `Scalar.read_textList`: so is a finite floating-point number.
-/

namespace Segmentation.Yaml.Scalar

open Integer Binary64
open Text (OnlyNumberChars onlyNumberChars_append onlyNumberChars_of_allDigits)

variable {cs ds : List Char} {c : Char}

/-! ## Numbers as words -/

theorem ordinary_of_onlyNumberChars (h : OnlyNumberChars cs) :
    ∀ x ∈ cs, isBlank x = false ∧ x ≠ ':' ∧ IsOrdinary x :=
  h.forall_mem (by decide)

theorem isAllowed_of_onlyNumberChars (h : OnlyNumberChars cs) : ∀ x ∈ cs, isAllowed x = true :=
  h.forall_mem (by decide)

theorem filter_underscore (h : OnlyNumberChars cs) : cs.filter (· ≠ '_') = cs := by
  have hall : ∀ x ∈ cs, decide (x ≠ '_') = true := h.forall_mem (by decide)
  exact List.filter_eq_self.2 hall

theorem contains_colon (h : OnlyNumberChars cs) : cs.contains ':' = false := by
  simpa using fun hc => (ordinary_of_onlyNumberChars h ':' hc).2.1 rfl

/-- A number is a word that can stand for a value. -/
theorem isValueWord_number (negative : Bool) (h : StartsWithDigit cs) (hcs : OnlyNumberChars cs) :
    Token.IsValueWord (signText negative ++ cs) := by
  have hall : OnlyNumberChars (signText negative ++ cs) :=
    onlyNumberChars_append.2 ⟨onlyNumberChars_signText negative, hcs⟩
  obtain ⟨d, ds, rfl, hd⟩ := h
  have halpha : d.isAlphanum = true := by simp [Char.isAlphanum, hd]
  refine ⟨⟨by simp, ?_, ordinary_of_onlyNumberChars hall⟩, ?_⟩
  · cases negative with
    | true => simp [signText]
    | false => simpa [signText] using digit_ne hd rfl
  · cases negative with
    | true =>
      refine .inr ⟨rfl, ?_⟩
      simp [signText, endsWord, isBlank, isBreak, digit_ne hd]
    | false => exact .inl halpha

theorem isValueWord_digits (n : Int) : Token.IsValueWord (Integer.digits n) := by
  rw [digits_eq_signText]
  exact isValueWord_number _ (startsWithDigit_toDigits _) (onlyNumberChars_of_allDigits (allDigits_toDigits _))

/-! ## What numbers are taken for -/

/-- Truth values start with a letter. -/
theorem not_truthValue {s : String} (h : ∀ x ∈ s.toList.head?, x.isAlpha = false) :
    (truthValues.any fun (word, _) => (spellings word).contains s) = false := by
  have hall : ∀ entry ∈ truthValues, ∀ w ∈ spellings entry.1, w.toList.head?.any Char.isAlpha = true := by
    decide +kernel
  rw [List.any_eq_false]
  intro entry hentry hmem
  obtain ⟨x, hx, halpha⟩ := Option.any_eq_true _ _ |>.1 (hall entry hentry s (by simpa using hmem))
  rw [h x hx] at halpha
  cases halpha

theorem head_of_number (negative : Bool) (h : StartsWithDigit cs) :
    ∀ x ∈ (signText negative ++ cs).head?, x.isAlpha = false := by
  obtain ⟨d, ds, rfl, hd⟩ := h
  cases negative with
  | true =>
    rintro x ⟨⟩
    rfl
  | false =>
    rintro x ⟨⟩
    have hall : ∀ x ∈ Text.numberChars, x.isDigit = true → x.isAlpha = false :=
      forall_mem_of_all (by decide)
    exact hall d (Text.mem_numberChars_of_isDigit hd) hd

theorem isGroupedNumber_of_allDigits (h : AllDigits cs) (hstart : StartsWithDigit cs) :
    isGroupedNumber cs = true := by
  obtain ⟨d, ds, rfl, hd⟩ := hstart
  simp only [isGroupedNumber, hd, Bool.true_and, List.all_eq_true]
  exact fun y hy => by simp [orUnderscore, h y (List.mem_cons_of_mem _ hy)]

theorem isUnsignedInt_of_integerPart (h : IsIntegerPart cs) : isUnsignedInt cs = true := by
  have hgrouped := isGroupedNumber_of_allDigits h.allDigits h.startsWithDigit
  rcases h with rfl | ⟨x, xs, rfl, hx, -⟩
  · rfl
  · rw [isUnsignedInt.eq_def]
    split
    · rename_i heq
      exact absurd (List.cons.inj heq).1 hx
    · rename_i heq
      exact absurd (List.cons.inj heq).1 hx
    · rename_i heq
      exact absurd (List.cons.inj heq).1 hx
    · rw [hgrouped, Bool.true_or]

/-- Without a point and a colon, a number is an integer. -/
theorem tagOf_digits (n : Int) : tagOf (String.ofList (Integer.digits n)) = .int := by
  have hdigits : AllDigits (Nat.toDigits 10 n.natAbs) := allDigits_toDigits _
  have hstart := startsWithDigit_toDigits n.natAbs
  have hsign := splitSign_signText (decide (n < 0)) hstart
  have hfloat : isFloat (signText (decide (n < 0)) ++ Nat.toDigits 10 n.natAbs) = false := by
    have hpoint : (Nat.toDigits 10 n.natAbs).dropWhile (· ≠ '.') = [] := by
      refine List.dropWhile_eq_nil_iff.2 fun x hx => ?_
      simpa using digit_ne (hdigits x hx) rfl
    unfold isFloat
    rw [hsign]
    dsimp only
    rw [hpoint]
  have hint : isInt (signText (decide (n < 0)) ++ Nat.toDigits 10 n.natAbs) = true := by
    unfold isInt
    rw [hsign]
    exact isUnsignedInt_of_integerPart (isIntegerPart_toDigits _)
  unfold tagOf
  rw [String.toList_ofList, digits_eq_signText, not_truthValue]
  · dsimp only
    rw [hfloat, hint]
    rfl
  · rw [String.toList_ofList]
    exact head_of_number _ hstart

/-- An integer that has a text is read as it was written. -/
theorem read_digits {n : Int} (hn : HasText n) :
    read .int (String.ofList (Integer.digits n)) = .ok (.int n) := by
  have honly := onlyNumberChars_of_allDigits (allDigits_toDigits n.natAbs)
  have hstart := startsWithDigit_toDigits n.natAbs
  have habs : (if n < 0 then -(n.natAbs : Int) else n.natAbs) = n := by
    split_ifs <;> omega
  have hten : inTen (Nat.toDigits 10 n.natAbs) = .ok n.natAbs := by
    rw [inTen, Integer.ofText?_toDigits (hasText_iff.1 hn)]
  unfold read readInt
  dsimp only
  rw [String.toList_ofList, filter_underscore (onlyNumberChars_digits n), digits_eq_signText,
    splitSign_signText _ hstart]
  dsimp only
  rcases isIntegerPart_toDigits n.natAbs with hzero | ⟨d, ds, hcons, hd, -⟩
  · have hvalue := ofDigits?_toDigits n.natAbs
    rw [hzero] at hvalue ⊢
    obtain rfl : n = 0 := Int.natAbs_eq_zero.1 (Option.some.inj hvalue).symm
    rfl
  · have hne : ∀ xs, Nat.toDigits 10 n.natAbs ≠ '0' :: xs := fun xs h =>
      hd (List.cons.inj (hcons.symm.trans h)).1
    split
    · rename_i heq
      rw [hcons] at heq
      cases heq
    · rename_i heq
      exact absurd heq (hne _)
    · rename_i heq
      exact absurd heq (hne _)
    · rename_i heq
      exact absurd heq (hne _)
    · rename_i heq
      exact absurd heq (hne _)
    · rw [contains_colon honly, if_neg Bool.false_ne_true, hten]
      exact congrArg (fun m => Except.ok (Value.int m)) (by simpa using habs)

/-! ## Floating-point numbers -/

section Decimal

variable {p : DecimalParts} {e : Option Int}

theorem isExponent_exponentText (e : Option Int) : isExponent (Layout.yaml.exponentText e) = true := by
  cases e with
  | none => rfl
  | some e =>
    have hall := List.all_eq_true.2 (allDigits_padLeft 2 e.natAbs)
    have hne := List.isEmpty_eq_false_iff.2 (padLeft_toDigits_ne_nil 2 e.natAbs)
    simp only [Layout.exponentText, Layout.yaml, isExponent, hne, hall]
    split_ifs <;> rfl

/-- A number is written with a point in any case. -/
theorem decimalText_point (h : Layout.yaml.Fits p e) :
    Layout.yaml.decimalText p e = p.whole ++ '.' :: (p.fraction ++ Layout.yaml.exponentText e) := by
  rw [Layout.decimalText, fractionText_of_ne_nil (h.point rfl), List.cons_append]

/-- A number with a point is a floating-point number. -/
theorem isFloat_decimalText (negative : Bool) (h : Layout.yaml.Fits p e) :
    isFloat (signText negative ++ Layout.yaml.decimalText p e) = true := by
  have hdigits := h.whole.allDigits
  have hne : ∀ x ∈ p.whole, decide (x ≠ '.') = true := fun x hx => by simpa using digit_ne (hdigits x hx) rfl
  have htake : (Layout.yaml.decimalText p e).takeWhile (· ≠ '.') = p.whole := by
    rw [decimalText_point h, List.takeWhile_append_of_pos hne, List.takeWhile_cons, if_neg (by decide),
      List.append_nil]
  have hdrop : (Layout.yaml.decimalText p e).dropWhile (· ≠ '.') =
      '.' :: (p.fraction ++ Layout.yaml.exponentText e) := by
    rw [decimalText_point h, List.dropWhile_append_of_pos hne, List.dropWhile_cons, if_neg (by decide)]
  have hgrouped := isGroupedNumber_of_allDigits hdigits h.whole.startsWithDigit
  have hcolon : isSexagesimal p.whole = false := by
    have hno : ':' ∉ p.whole := fun hmem => digit_ne (hdigits _ hmem) (d := ':') rfl rfl
    rw [isSexagesimal, Text.splitOn_of_notMem hno]
  have hfrac : isFraction (p.fraction ++ Layout.yaml.exponentText e) = true := by
    unfold isFraction
    rw [List.dropWhile_append_of_pos fun x hx => by simp [orUnderscore, h.fraction x hx]]
    have hstop : (Layout.yaml.exponentText e).dropWhile (orUnderscore Char.isDigit) =
        Layout.yaml.exponentText e := by
      cases e with
      | none => rfl
      | some e => simp [Layout.exponentText, orUnderscore]
    rw [hstop, isExponent_exponentText]
  unfold isFloat
  rw [splitSign_signText negative h.startsWithDigit]
  dsimp only
  rw [htake, hdrop, hcolon, hgrouped]
  dsimp only
  rw [hfrac, List.isEmpty_eq_false_iff.2 h.whole.startsWithDigit.ne_nil]
  rfl

theorem readPart_decimalText (h : Layout.yaml.Fits p e) :
    readPart (Layout.yaml.decimalText p e) = .ok (p.toBinary64 false) := by
  have hread : Binary64.ofText? (String.ofList (Layout.yaml.decimalText p e)) = some (p.toBinary64 false) :=
    h.ofText?_decimalText false
  rw [readPart, hread]

end Decimal

theorem isValueWord_textList {x : Binary64} (hx : x.isFinite = true) :
    Token.IsValueWord (x.textList .yaml) := by
  obtain ⟨negative, p, e, htext, hfits, -⟩ := Layout.yaml.textList_finite hx
  rw [htext]
  exact isValueWord_number negative hfits.startsWithDigit hfits.onlyNumberChars

/-- A finite floating-point number is recognised. -/
theorem tagOf_textList {x : Binary64} (hx : x.isFinite = true) :
    tagOf (String.ofList (x.textList .yaml)) = .float := by
  obtain ⟨negative, p, e, htext, hfits, -⟩ := Layout.yaml.textList_finite hx
  unfold tagOf
  rw [htext, not_truthValue]
  · dsimp only
    rw [String.toList_ofList, isFloat_decimalText negative hfits]
    rfl
  · rw [String.toList_ofList]
    exact head_of_number negative hfits.startsWithDigit

/-- A finite floating-point number is read as it was written. -/
theorem read_textList {x : Binary64} (hx : x.isFinite = true) :
    read .float (String.ofList (x.textList .yaml)) = .ok (.float x) := by
  obtain ⟨negative, p, e, htext, hfits, hvalue, hother⟩ := Layout.yaml.textList_finite hx
  have hsigned := hfits.onlyNumberChars_signed negative
  have hstart := hfits.startsWithDigit
  have hspecial : ∀ name : String, (∀ x ∈ name.toList.head?, x.isDigit = false) →
      Layout.yaml.decimalText p e ≠ name.toList := by
    intro name hno heq
    obtain ⟨d, ds, hds, hd⟩ := hstart
    rw [hno d (by rw [← heq, hds]; rfl)] at hd
    cases hd
  have hnil : (signText negative ++ Layout.yaml.decimalText p e).isEmpty = false := by
    rw [List.isEmpty_eq_false_iff]
    exact List.append_ne_nil_of_right_ne_nil _ hstart.ne_nil
  -- The sign is read apart from the decimal and turns its number around.
  have hsign : (if negative then (p.toBinary64 false).negate else p.toBinary64 false) = x := by
    cases negative with
    | false => exact hvalue
    | true =>
      rw [if_pos rfl, show p.toBinary64 false = x.negate from hother]
      exact x.negate_negate
  unfold read readFloat
  dsimp only
  rw [htext, hsigned.lower, String.toList_ofList, filter_underscore hsigned, hnil,
    splitSign_signText negative hstart]
  dsimp only
  rw [if_neg Bool.false_ne_true, if_neg (hspecial _ (by rintro _ ⟨⟩; rfl)),
    if_neg (hspecial _ (by rintro _ ⟨⟩; rfl)), contains_colon hfits.onlyNumberChars, if_neg Bool.false_ne_true,
    readPart_decimalText hfits]
  exact congrArg (fun y => Except.ok (Value.float y)) hsign

end Segmentation.Yaml.Scalar
