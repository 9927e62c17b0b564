import Segmentation.Number.Binary64.Arithmetic
import Segmentation.Number.Binary64.Text
import Segmentation.Proofs.Number.Digits
import Segmentation.Proofs.Number.ShortestDecimal

/-!
# The text of numbers

* `Text.OnlyNumberChars`: text of the characters of numbers, which reading a number leaves as it is.
* `Integer.IsIntegerPart`, `Integer.StartsWithDigit`: what stands in front of the point of a number.
* `Integer.splitSign_signText`, `Binary64.ofSigned?_signText`: the sign is told from the digits behind it.
* `Binary64.Layout.decimalText`, `Binary64.Layout.Fits`: the text of a decimal, and the parts that a layout writes.
* `Binary64.Layout.Fits.ofText?_decimalText`: the text of a decimal is read as the number that the decimal stands for.
* `Binary64.Layout.textList_finite`: in any layout the text of a finite number is that of a decimal which stands for
  the number.
-/

namespace Segmentation

/-! ## The characters of numbers -/

namespace Text

variable {cs ds : List Char} {c : Char}

/-- The characters in the text of a number. -/
def numberChars : List Char :=
  "0123456789.e+-".toList

/-- The text holds nothing but such characters. -/
def OnlyNumberChars (cs : List Char) : Prop :=
  ∀ c ∈ cs, c ∈ numberChars

theorem onlyNumberChars_append : OnlyNumberChars (cs ++ ds) ↔ OnlyNumberChars cs ∧ OnlyNumberChars ds :=
  List.forall_mem_append

theorem onlyNumberChars_cons : OnlyNumberChars (c :: cs) ↔ c ∈ numberChars ∧ OnlyNumberChars cs :=
  List.forall_mem_cons

theorem mem_numberChars_of_isDigit (h : c.isDigit = true) : c ∈ numberChars := by
  have hval : 48 ≤ c.toNat ∧ c.toNat ≤ 57 := by simpa [Char.isDigit, UInt32.le_iff_toNat_le] using h
  have hall : ∀ n ∈ List.range 58, 48 ≤ n → Char.ofNat n ∈ numberChars := by decide
  rw [← Char.ofNat_toNat c]
  exact hall _ (List.mem_range.2 (by omega)) hval.1

theorem onlyNumberChars_of_allDigits (h : Integer.AllDigits cs) : OnlyNumberChars cs :=
  fun c hc => mem_numberChars_of_isDigit (h c hc)

namespace OnlyNumberChars

/-- What holds of each character of numbers holds of those in the text. -/
theorem forall_mem {p : Char → Prop} [DecidablePred p] (h : OnlyNumberChars cs)
    (hall : numberChars.all (p ·) = true) : ∀ x ∈ cs, p x :=
  fun x hx => forall_mem_of_all hall x (h x hx)

theorem trimList {p : Char → Bool} (hp : ∀ x ∈ numberChars, p x = false) (h : OnlyNumberChars cs) :
    Text.trimList p cs = cs :=
  trimList_eq_self (fun x hx => hp x (h x (List.mem_of_head? hx)))
    fun x hx => hp x (h x (List.mem_of_getLast? hx))

theorem trim (h : OnlyNumberChars cs) : Text.trim (String.ofList cs) = String.ofList cs := by
  rw [Text.trim, String.toList_ofList, h.trimList (forall_mem_of_all (by decide))]

theorem plain (h : OnlyNumberChars cs) : ∀ x ∈ cs, IsPlain x :=
  h.forall_mem (by decide +kernel)

theorem asciiDigits (h : OnlyNumberChars cs) : Text.asciiDigits cs = cs :=
  asciiDigits_of_plain h.plain

theorem withoutUnderscores? (h : OnlyNumberChars cs) (afterDigit : Bool) :
    Integer.withoutUnderscores? afterDigit cs = some cs :=
  Integer.withoutUnderscores?_of_notMem (fun hmem => (h.plain _ hmem).2.2 rfl) afterDigit

theorem lower (h : OnlyNumberChars cs) : Text.lower (String.ofList cs) = String.ofList cs := by
  have hall : ∀ x ∈ numberChars, x ≠ 'Σ' ∧ x ≠ 'İ' ∧ shiftChar lowerShifts x = x :=
    forall_mem_of_all (by decide +kernel)
  have hfrom : ∀ inWord, lowerFrom inWord cs = cs := by
    induction cs with
    | nil => exact fun _ => rfl
    | cons x cs ih =>
      rw [onlyNumberChars_cons] at h
      obtain ⟨hsigma, hdot, hshift⟩ := hall x h.1
      intro inWord
      rw [lowerFrom, ih h.2, lowerChar, if_neg hsigma, if_neg hdot, hshift, List.singleton_append]
  rw [Text.lower, String.toList_ofList, hfrom]

theorem ofText? (h : OnlyNumberChars cs) : Binary64.ofText? (String.ofList cs) = Binary64.ofSigned? cs :=
  Binary64.ofText?_of_plain h.plain

end OnlyNumberChars

end Text

/-! ## The sign and the digits behind it -/

namespace Integer

open Text (OnlyNumberChars onlyNumberChars_append onlyNumberChars_of_allDigits)

variable {cs ds : List Char}

theorem digit_ne {c d : Char} (hc : c.isDigit = true) (hd : d.isDigit = false) : c ≠ d := by
  rintro rfl
  rw [hc] at hd
  cases hd

/-- The text starts with a digit. -/
def StartsWithDigit (cs : List Char) : Prop :=
  ∃ d ds, cs = d :: ds ∧ d.isDigit = true

theorem StartsWithDigit.append (h : StartsWithDigit cs) (ds : List Char) : StartsWithDigit (cs ++ ds) := by
  obtain ⟨d, rest, rfl, hd⟩ := h
  exact ⟨d, rest ++ ds, rfl, hd⟩

theorem StartsWithDigit.ne_nil (h : StartsWithDigit cs) : cs ≠ [] := by
  obtain ⟨d, rest, rfl, -⟩ := h
  exact List.cons_ne_nil _ _

theorem AllDigits.startsWithDigit (h : AllDigits cs) (hne : cs ≠ []) : StartsWithDigit cs := by
  cases cs with
  | nil => exact absurd rfl hne
  | cons d ds => exact ⟨d, ds, rfl, (allDigits_cons.1 h).1⟩

theorem startsWithDigit_toDigits (n : Nat) : StartsWithDigit (Nat.toDigits 10 n) :=
  (allDigits_toDigits n).startsWithDigit Nat.toDigits_ne_nil

/-- The digits of an integer part: a zero, or digits that do not start with one. -/
def IsIntegerPart (ds : List Char) : Prop :=
  ds = ['0'] ∨ ∃ c cs, ds = c :: cs ∧ c ≠ '0' ∧ AllDigits ds

theorem IsIntegerPart.allDigits (h : IsIntegerPart ds) : AllDigits ds := by
  rcases h with rfl | ⟨c, cs, -, -, hds⟩
  · exact allDigits_replicate 1
  · exact hds

theorem IsIntegerPart.startsWithDigit (h : IsIntegerPart ds) : StartsWithDigit ds := by
  refine h.allDigits.startsWithDigit ?_
  rcases h with rfl | ⟨c, cs, rfl, -, -⟩ <;> exact List.cons_ne_nil _ _

theorem isIntegerPart_toDigits (n : Nat) : IsIntegerPart (Nat.toDigits 10 n) := by
  rcases Nat.eq_zero_or_pos n with rfl | hn
  · exact .inl (Nat.toDigits_zero 10)
  · obtain ⟨c, cs, hcs, hc⟩ := toDigits_cons hn.ne'
    exact .inr ⟨c, cs, hcs, hc, allDigits_toDigits n⟩

/-- The sign of a number in front of its digits. -/
def signText (negative : Bool) : List Char :=
  if negative then ['-'] else []

theorem onlyNumberChars_signText (negative : Bool) : OnlyNumberChars (signText negative) := by
  intro c hc
  cases negative with
  | false => cases hc
  | true =>
    rw [List.mem_singleton.1 hc]
    decide

theorem digits_eq_signText (n : Int) :
    digits n = signText (decide (n < 0)) ++ Nat.toDigits 10 n.natAbs := by
  by_cases h : n < 0 <;> simp [digits, signText, h]

theorem onlyNumberChars_digits (n : Int) : OnlyNumberChars (digits n) := by
  rw [digits_eq_signText]
  exact onlyNumberChars_append.2 ⟨onlyNumberChars_signText _, onlyNumberChars_of_allDigits (allDigits_toDigits _)⟩

theorem splitSign_signText (negative : Bool) (h : StartsWithDigit cs) :
    splitSign (signText negative ++ cs) = (negative, cs) := by
  obtain ⟨d, ds, rfl, hd⟩ := h
  cases negative with
  | true => rfl
  | false =>
    unfold splitSign signText
    split
    · rename_i heq
      obtain ⟨rfl, -⟩ := List.cons.inj heq
      cases hd
    · rename_i heq
      obtain ⟨rfl, -⟩ := List.cons.inj heq
      cases hd
    · rfl

theorem splitSign_of_startsWithDigit (h : StartsWithDigit cs) : splitSign cs = (false, cs) :=
  splitSign_signText false h

/-- The digits of a number are read as the number, unless there are too many of them. -/
theorem ofText?_toDigits {n : Nat} (hn : (Nat.toDigits 10 n).length ≤ maxDigits) :
    ofText? (String.ofList (Nat.toDigits 10 n)) = some (n : Int) := by
  have honly := onlyNumberChars_of_allDigits (allDigits_toDigits n)
  have hempty : (Nat.toDigits 10 n).isEmpty = false := List.isEmpty_eq_false_iff.2 Nat.toDigits_ne_nil
  rw [ofText?, String.toList_ofList, honly.trimList (forall_mem_of_all (by decide)), honly.asciiDigits,
    honly.withoutUnderscores?, Option.bind_some, ofSigned?, splitSign_of_startsWithDigit (startsWithDigit_toDigits n)]
  simp [hempty, Nat.not_lt.2 hn, ofDigits?_toDigits]

end Integer

namespace Binary64

open Integer
open Text (OnlyNumberChars numberChars mem_numberChars_of_isDigit onlyNumberChars_append onlyNumberChars_cons
  onlyNumberChars_of_allDigits)

/-- A number that starts with a digit is none of the numbers that have a name. -/
theorem ofSigned?_signText (negative : Bool) {cs : List Char} (h : StartsWithDigit cs) :
    ofSigned? (signText negative ++ cs) = (DecimalParts.ofList? cs).map (·.toBinary64 negative) := by
  have hname : ∀ name : String, (∀ x ∈ name.toList.head?, x.isDigit = false) →
      String.ofList (cs.map Char.toLower) ≠ name := by
    rintro name hno rfl
    have hlower : ∀ x ∈ numberChars, x.isDigit = true → x.toLower.isDigit = true :=
      forall_mem_of_all (by decide)
    obtain ⟨d, ds, hds, hd⟩ := h
    have hdigit := hno d.toLower (by rw [hds, String.toList_ofList]; rfl)
    rw [hlower d (mem_numberChars_of_isDigit hd) hd] at hdigit
    cases hdigit
  unfold ofSigned?
  rw [splitSign_signText negative h]
  dsimp only
  simp only [hname "inf" (by rintro _ ⟨⟩; rfl), hname "infinity" (by rintro _ ⟨⟩; rfl),
    hname "nan" (by rintro _ ⟨⟩; rfl), decide_false, Bool.or_false, Bool.false_eq_true, if_false]

theorem negate_negate (x : Binary64) : x.negate.negate = x := by
  cases x <;> simp [negate]

/-! ## Padded digits -/

theorem ofDigitChars_padLeft (width n : Nat) :
    Nat.ofDigitChars 10 (padLeft width (Nat.toDigits 10 n)) 0 = n := by
  rw [padLeft, Nat.ofDigitChars_append, Nat.ofDigitChars_replicate_zero, Nat.mul_zero,
    Nat.ofDigitChars_ten_toDigits]

theorem allDigits_padLeft (width n : Nat) : AllDigits (padLeft width (Nat.toDigits 10 n)) :=
  allDigits_append.2 ⟨allDigits_replicate _, allDigits_toDigits n⟩

theorem length_padLeft (width : Nat) (cs : List Char) :
    (padLeft width cs).length = max width cs.length := by
  simp [padLeft]
  omega

theorem padLeft_toDigits_ne_nil (width n : Nat) : padLeft width (Nat.toDigits 10 n) ≠ [] := by
  have hpos : 0 < (Nat.toDigits 10 n).length := Nat.length_toDigits_pos
  rw [← List.length_pos_iff, length_padLeft]
  omega

/-- The digits in front of the last `places` of a padded number make up an integer part. -/
theorem isIntegerPart_take_padLeft {n places : Nat} (hn : 0 < n) :
    IsIntegerPart ((padLeft (places + 1) (Nat.toDigits 10 n)).take
      ((padLeft (places + 1) (Nat.toDigits 10 n)).length - places)) := by
  rw [length_padLeft]
  rcases Nat.lt_or_ge places (Nat.toDigits 10 n).length with hlt | hge
  · obtain ⟨c, cs, hcs, hc⟩ := toDigits_cons hn.ne'
    have hpad : padLeft (places + 1) (Nat.toDigits 10 n) = Nat.toDigits 10 n := by
      simp [padLeft, Nat.sub_eq_zero_of_le (show places + 1 ≤ (Nat.toDigits 10 n).length from hlt)]
    right
    rw [hpad, Nat.max_eq_right hlt]
    refine ⟨c, cs.take ((Nat.toDigits 10 n).length - places - 1), ?_, hc, ?_⟩
    · obtain ⟨k, hk⟩ : ∃ k, (Nat.toDigits 10 n).length - places = k + 1 :=
        ⟨_, (Nat.sub_add_cancel (by omega)).symm⟩
      rw [hk, hcs, List.take_succ_cons, Nat.add_sub_cancel]
    · exact fun d hd => allDigits_toDigits n d (List.mem_of_mem_take hd)
  · left
    obtain ⟨k, hk⟩ : ∃ k, places + 1 - (Nat.toDigits 10 n).length = k + 1 :=
      ⟨_, (Nat.sub_add_cancel (by omega)).symm⟩
    rw [Nat.max_eq_left (by omega), Nat.add_sub_cancel_left, padLeft, hk, List.replicate_succ]
    rfl

/-! ## The text of a decimal -/

/-- The text of the digits after the point; without digits there is no point. -/
def fractionText : List Char → List Char
  | [] => []
  | ds => '.' :: ds

theorem fractionText_of_ne_nil {ds : List Char} (h : ds ≠ []) : fractionText ds = '.' :: ds := by
  cases ds with
  | nil => exact absurd rfl h
  | cons d ds => rfl

theorem onlyNumberChars_fractionText {ds : List Char} (h : AllDigits ds) : OnlyNumberChars (fractionText ds) := by
  cases ds with
  | nil => nofun
  | cons d ds => exact onlyNumberChars_cons.2 ⟨by decide, onlyNumberChars_of_allDigits h⟩

theorem noDigitNext_fractionText (ds : List Char) {rest : List Char} (hrest : NoDigitNext rest) :
    NoDigitNext (fractionText ds ++ rest) := by
  cases ds with
  | nil => exact hrest
  | cons d ds => simp [fractionText, NoDigitNext]

namespace Layout

variable {layout : Layout} {p : DecimalParts} {e : Option Int}

/-- The text of an exponent with its sign, in as many digits as the layout has at least. -/
def exponentText (layout : Layout) : Option Int → List Char
  | none => []
  | some e => 'e' :: (if e < 0 then '-' else '+') :: padLeft layout.exponentDigits (Nat.toDigits 10 e.natAbs)

theorem onlyNumberChars_exponentText (layout : Layout) (e : Option Int) :
    OnlyNumberChars (layout.exponentText e) := by
  cases e with
  | none => nofun
  | some e =>
    refine onlyNumberChars_cons.2 ⟨by decide, onlyNumberChars_cons.2 ⟨?_, ?_⟩⟩
    · split_ifs <;> decide
    · exact onlyNumberChars_of_allDigits (allDigits_padLeft _ _)

theorem head?_exponentText (layout : Layout) (e : Option Int) :
    ∀ c ∈ (layout.exponentText e).head?, c.isDigit = false ∧ c ≠ '.' := by
  cases e with
  | none => nofun
  | some e => simp [exponentText]

theorem exponentOf?_exponentText (layout : Layout) (e : Option Int) :
    exponentOf? (layout.exponentText e) = some (e.getD 0) := by
  cases e with
  | none => rfl
  | some e =>
    exact exponentOf?_signed (.inl rfl) (padLeft_toDigits_ne_nil _ _) (allDigits_padLeft _ _)
      (ofDigitChars_padLeft _ _)

/-- The text of a decimal without its sign. -/
def decimalText (layout : Layout) (p : DecimalParts) (e : Option Int) : List Char :=
  p.whole ++ (fractionText p.fraction ++ layout.exponentText e)

/-- The layout writes a number with the parts `p` and the exponent `e`. -/
structure Fits (layout : Layout) (p : DecimalParts) (e : Option Int) : Prop where
  whole : IsIntegerPart p.whole
  length_whole : (p.whole.length : Int) ≤ max 1 layout.positionalTo
  fraction : AllDigits p.fraction
  exponent : p.exponent = e.getD 0
  float : p.fraction ≠ [] ∨ e ≠ none
  point : layout.pointBeforeExponent = true → p.fraction ≠ []

namespace Fits

theorem allDigits (h : layout.Fits p e) : AllDigits (p.whole ++ p.fraction) :=
  allDigits_append.2 ⟨h.whole.allDigits, h.fraction⟩

theorem startsWithDigit (h : layout.Fits p e) : StartsWithDigit (layout.decimalText p e) :=
  h.whole.startsWithDigit.append _

theorem onlyNumberChars (h : layout.Fits p e) : OnlyNumberChars (layout.decimalText p e) :=
  onlyNumberChars_append.2 ⟨onlyNumberChars_of_allDigits h.whole.allDigits, onlyNumberChars_append.2
    ⟨onlyNumberChars_fractionText h.fraction, onlyNumberChars_exponentText layout e⟩⟩

theorem onlyNumberChars_signed (h : layout.Fits p e) (negative : Bool) :
    OnlyNumberChars (signText negative ++ layout.decimalText p e) :=
  onlyNumberChars_append.2 ⟨onlyNumberChars_signText negative, h.onlyNumberChars⟩

/-- The parts are found in the text, with or without a point. -/
theorem ofList?_decimalText (h : layout.Fits p e) : DecimalParts.ofList? (layout.decimalText p e) = some p := by
  obtain ⟨whole, fraction, exponent⟩ := p
  obtain rfl : exponent = e.getD 0 := h.exponent
  have hne : whole ≠ [] := h.whole.startsWithDigit.ne_nil
  have hread := exponentOf?_exponentText layout e
  have hhead := head?_exponentText layout e
  unfold decimalText
  cases fraction with
  | nil => exact DecimalParts.ofList?_whole h.whole.allDigits hne hhead hread
  | cons d ds =>
    exact DecimalParts.ofList?_point h.whole.allDigits hne h.fraction (fun c hc => (hhead c hc).1) hread

/-- So the text is read as the number that the decimal stands for. -/
theorem ofText?_decimalText (h : layout.Fits p e) (negative : Bool) :
    ofText? (String.ofList (signText negative ++ layout.decimalText p e)) = some (p.toBinary64 negative) := by
  rw [(h.onlyNumberChars_signed negative).ofText?, ofSigned?_signText negative h.startsWithDigit,
    h.ofList?_decimalText, Option.map_some]

end Fits

/-- Moreover, the parts stand for the decimal `d`. -/
structure Spells (layout : Layout) (p : DecimalParts) (e : Option Int) (d : Decimal.Scaled) : Prop
    extends Fits layout p e where
  digits_pos : 0 < Nat.ofDigitChars 10 (p.whole ++ p.fraction) 0
  magnitude : (Nat.ofDigitChars 10 (p.whole ++ p.fraction) 0 : ℚ) *
    10 ^ (p.exponent - p.fraction.length) = d.magnitude

/-- So if the decimal is in the interval of a number, they stand for the number. -/
theorem Spells.toBinary64 {d : Decimal.Scaled} {mant : Nat} {exp : Int} (h : layout.Spells p e d)
    (hmant : mant ≠ 0) (hcanon : Canonical mant exp) (hd : (interval mant exp).Contains exp d.magnitude)
    (negative : Bool) : p.toBinary64 negative = .finite negative mant exp hcanon := by
  rw [← h.magnitude] at hd
  unfold DecimalParts.toBinary64
  rw [ofDigits?_eq h.allDigits]
  exact ofDecimal_of_contains negative h.digits_pos hmant hcanon hd

theorem spells_positional_of_nonneg {n : Nat} {exp : Int} (hn : 0 < n) (hexp : 0 ≤ exp)
    (hto : exp + (Nat.toDigits 10 n).length - 1 < layout.positionalTo) :
    ∃ p, layout.Spells p none ⟨n, exp⟩ ∧
      positional (Nat.toDigits 10 n) exp = layout.decimalText p none := by
  obtain ⟨k, rfl⟩ := Int.eq_ofNat_of_zero_le hexp
  refine ⟨⟨Nat.toDigits 10 n ++ List.replicate k '0', ['0'], 0⟩, ?_, ?_⟩
  · have hvalue : Nat.ofDigitChars 10 (Nat.toDigits 10 n ++ List.replicate k '0' ++ ['0']) 0 =
        10 ^ k * n * 10 := by
      rw [Nat.ofDigitChars_append, Nat.ofDigitChars_append, Nat.ofDigitChars_ten_toDigits,
        Nat.ofDigitChars_replicate_zero, Nat.ofDigitChars_cons, Nat.ofDigitChars_nil]
      simp [Nat.mul_comm]
    obtain ⟨c, cs, hcs, hc⟩ := toDigits_cons hn.ne'
    have hdigits : AllDigits (Nat.toDigits 10 n ++ List.replicate k '0') :=
      allDigits_append.2 ⟨allDigits_toDigits n, allDigits_replicate k⟩
    refine ⟨⟨.inr ⟨c, cs ++ List.replicate k '0', by rw [hcs, List.cons_append], hc, hdigits⟩,
      ?_, allDigits_replicate 1, rfl, .inl (by simp), by simp⟩, ?_, ?_⟩
    · simp only [List.length_append, List.length_replicate]
      omega
    · rw [hvalue]
      positivity
    · rw [hvalue]
      simp only [Decimal.Scaled.magnitude, List.length_singleton]
      push_cast
      rw [zpow_natCast, zpow_neg_one]
      field_simp
  · simp [positional, decimalText, fractionText, exponentText]

theorem spells_positional_of_neg {n : Nat} {exp : Int} (hn : 0 < n) (hexp : exp < 0)
    (hto : exp + (Nat.toDigits 10 n).length - 1 < layout.positionalTo) :
    ∃ p, layout.Spells p none ⟨n, exp⟩ ∧
      positional (Nat.toDigits 10 n) exp = layout.decimalText p none := by
  obtain ⟨places, rfl⟩ := Int.exists_eq_neg_ofNat hexp.le
  have hpos : 0 < places := by omega
  set padded := padLeft (places + 1) (Nat.toDigits 10 n) with hpadded
  have hpad : padded.length = max (places + 1) (Nat.toDigits 10 n).length := length_padLeft _ _
  have hlen : padded.length - (padded.length - places) = places := by omega
  have hne : padded.drop (padded.length - places) ≠ [] := by
    rw [← List.length_pos_iff, List.length_drop]
    omega
  refine ⟨⟨padded.take (padded.length - places), padded.drop (padded.length - places), 0⟩, ?_, ?_⟩
  · refine ⟨⟨isIntegerPart_take_padLeft hn, ?_, fun c hc => allDigits_padLeft _ n c (List.mem_of_mem_drop hc),
      rfl, .inl hne, fun _ => hne⟩, ?_, ?_⟩
    · rw [List.length_take]
      omega
    · rw [List.take_append_drop, ofDigitChars_padLeft]
      exact hn
    · rw [List.take_append_drop, ofDigitChars_padLeft, List.length_drop, hlen]
      simp [Decimal.Scaled.magnitude]
  · unfold positional
    rw [if_neg (by omega)]
    simp only [neg_neg, Int.toNat_natCast, ← hpadded, decimalText, exponentText, List.append_nil,
      fractionText_of_ne_nil hne]

/-- Exponent notation has one digit in front of the point. If the layout has a point in any case, a single digit
has a zero behind it. -/
theorem spells_exponential (layout : Layout) {n : Nat} (exp : Int) (hn : 0 < n) :
    ∃ p e, layout.Spells p e ⟨n, exp⟩ ∧
      exponential layout (Nat.toDigits 10 n) (exp + (Nat.toDigits 10 n).length - 1) =
        layout.decimalText p e := by
  obtain ⟨d, ds, hds, hd⟩ := toDigits_cons hn.ne'
  have hall := allDigits_toDigits n
  have hvalue : Nat.ofDigitChars 10 (d :: ds) 0 = n := by rw [← hds, Nat.ofDigitChars_ten_toDigits]
  rw [hds] at hall ⊢
  rw [allDigits_cons] at hall
  have hwhole : IsIntegerPart [d] := .inr ⟨d, [], rfl, hd, allDigits_cons.2 ⟨hall.1, nofun⟩⟩
  set leading := exp + (d :: ds).length - 1 with hleading
  by_cases hzero : ds = [] ∧ layout.pointBeforeExponent = true
  · obtain ⟨rfl, hpoint⟩ := hzero
    have hten : Nat.ofDigitChars 10 [d, '0'] 0 = n * 10 := by
      rw [← hvalue, Nat.ofDigitChars_cons, Nat.ofDigitChars_cons, Nat.ofDigitChars_cons]
      simp [Nat.mul_comm]
    have hexp : leading = exp := by simp [hleading]
    refine ⟨⟨[d], ['0'], leading⟩, some leading,
      ⟨⟨hwhole, le_max_left _ _, allDigits_replicate 1, rfl, .inr (by simp), by simp⟩,
      ?_, ?_⟩, ?_⟩
    · simp only [List.singleton_append, hten]
      omega
    · simp only [List.singleton_append, hten, hexp, Decimal.Scaled.magnitude, List.length_singleton]
      rw [Nat.cast_one, zpow_sub₀ (by norm_num), zpow_one]
      push_cast
      field_simp
    · simp [exponential, decimalText, fractionText, exponentText, hpoint, Binary64.digits]
  · have hexp : leading - (ds.length : Int) = exp := by
      rw [hleading, List.length_cons]
      push_cast
      omega
    refine ⟨⟨[d], ds, leading⟩, some leading, ⟨⟨hwhole, le_max_left _ _, hall.2, rfl, .inr (by simp), ?_⟩, ?_, ?_⟩, ?_⟩
    · exact fun hpoint hnil => hzero ⟨hnil, hpoint⟩
    · simp only [List.singleton_append, hvalue]
      exact hn
    · simp only [List.singleton_append, hvalue, hexp, Decimal.Scaled.magnitude]
    · cases ds with
      | nil =>
        have hpoint : layout.pointBeforeExponent = false := by simpa using hzero
        simp [exponential, decimalText, fractionText, exponentText, hpoint, Binary64.digits]
      | cons x xs => simp [exponential, decimalText, fractionText, exponentText, Binary64.digits]

theorem spells_magnitude (layout : Layout) {d : Decimal.Scaled} (hd : 0 < d.digits) :
    ∃ p e, layout.Spells p e d ∧ layout.magnitude d = layout.decimalText p e := by
  unfold Layout.magnitude
  dsimp only
  split
  · rename_i hpositional
    rcases lt_or_ge d.exp 0 with hneg | hnonneg
    · obtain ⟨p, hp, htext⟩ := spells_positional_of_neg hd hneg hpositional.2
      exact ⟨p, none, hp, htext⟩
    · obtain ⟨p, hp, htext⟩ := spells_positional_of_nonneg hd hnonneg hpositional.2
      exact ⟨p, none, hp, htext⟩
  · exact layout.spells_exponential d.exp hd

/-- A finite number is written as a sign and the text of a decimal. With the sign the decimal stands for the number,
and with the other one for the number of the other sign. -/
theorem textList_finite (layout : Layout) {x : Binary64} (hx : x.isFinite = true) :
    ∃ negative p e, x.textList layout = signText negative ++ layout.decimalText p e ∧ layout.Fits p e ∧
      p.toBinary64 negative = x ∧ p.toBinary64 (!negative) = x.negate := by
  cases x with
  | nan => cases hx
  | infinite negative => cases hx
  | finite negative mant exp hcanon =>
    rcases Nat.eq_zero_or_pos mant with rfl | hmant
    · have hexp : exp = -1074 := hcanon.2.2.2.resolve_left (by decide)
      subst hexp
      exact ⟨negative, ⟨['0'], ['0'], 0⟩, none, rfl,
        ⟨.inl rfl, le_max_left _ _, allDigits_replicate 1, rfl, .inl (by simp), by simp⟩, rfl, rfl⟩
    · obtain ⟨hpos, hcontains⟩ := shortest_contains hmant.ne' hcanon.1
      obtain ⟨p, e, hp, htext⟩ := layout.spells_magnitude hpos
      refine ⟨negative, p, e, ?_, hp.toFits, hp.toBinary64 hmant.ne' hcanon hcontains negative,
        hp.toBinary64 hmant.ne' hcanon hcontains (!negative)⟩
      rw [textList, if_neg hmant.ne', htext]
      rfl

theorem onlyNumberChars_textList (layout : Layout) {x : Binary64} (hx : x.isFinite = true) :
    OnlyNumberChars (x.textList layout) := by
  obtain ⟨negative, p, e, htext, hfits, -⟩ := layout.textList_finite hx
  rw [htext]
  exact hfits.onlyNumberChars_signed negative

end Layout

end Binary64

end Segmentation
