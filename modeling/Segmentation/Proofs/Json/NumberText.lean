import Segmentation.Json.Token
import Segmentation.Proofs.Number.Layout

/-!
# Numbers in a JSON text

* `Dialect.Admits`: the integers that are short enough for a dialect.
* `Token.EndsNumber`: what cannot be taken for more of a number.
* `Token.number?_toDigits`, `Token.number?_decimalText`: what the reader makes of digits and of a decimal.
* `Token.next?_digits`, `Token.next?_textList`: integers and finite floats are read as they were written, unless an
  integer is too long.
-/

namespace Segmentation.Json

open Integer Binary64

/-! ## Integers that are short enough -/

namespace Dialect

/-- The integer is short enough for the dialect. -/
def Admits (dialect : Dialect) (n : Int) : Prop :=
  dialect.isTooLong (decide (n < 0)) true (Nat.toDigits 10 n.natAbs).length = false

instance (dialect : Dialect) (n : Int) : Decidable (dialect.Admits n) :=
  inferInstanceAs (Decidable (_ = _))

theorem admits_plain {n : Int} : plain.Admits n ↔ HasText n := by
  rw [HasText, Integer.hasText_iff]
  simp [Admits, plain]

/-- Where the sign counts, the text of the integer must not be longer than the longest one. -/
theorem admits_strict [Limits] {n : Int} : strict.Admits n ↔ IsShort n := by
  rw [IsShort, length_digits]
  simp [Admits, strict]

end Dialect

namespace Token

variable (dialect : Dialect)

/-! ## The parts of a number -/

/-- What follows cannot be taken for more of a number. -/
def EndsNumber (rest : List Char) : Prop :=
  ∀ c ∈ rest.head?, c.isDigit = false ∧ c ≠ '.' ∧ c ≠ 'e' ∧ c ≠ 'E'

theorem EndsNumber.noDigitNext {rest : List Char} (h : EndsNumber rest) : NoDigitNext rest :=
  fun c hc => (h c hc).1

theorem integerPart?_append {ds rest : List Char} (hds : IsIntegerPart ds)
    (hrest : NoDigitNext rest) : integerPart? (ds ++ rest) = some (ds, rest) := by
  rcases hds with rfl | ⟨c, cs, rfl, hc, hds⟩
  · rfl
  · rw [allDigits_cons] at hds
    rw [List.cons_append, integerPart?.eq_def]
    split
    · rename_i h
      exact absurd (List.cons.inj h).1 hc
    · rename_i h
      obtain ⟨rfl, rfl⟩ := List.cons.inj h
      rw [if_pos hds.1, takeWhile_digits hds.2 hrest, dropWhile_digits hds.2 hrest]
    · rename_i h
      cases h

theorem fractionPart_append {ds rest : List Char} (hds : AllDigits ds) (hrest : NoDigitNext rest)
    (hpoint : ∀ c ∈ rest.head?, c ≠ '.') : fractionPart (fractionText ds ++ rest) = (ds, rest) := by
  cases ds with
  | nil =>
    unfold fractionText fractionPart
    dsimp only [List.nil_append]
    split
    · exact absurd rfl (hpoint '.' rfl)
    · rfl
  | cons d ds =>
    rw [allDigits_cons] at hds
    simp only [fractionText, List.cons_append, fractionPart]
    rw [if_pos hds.1, takeWhile_digits hds.2 hrest, dropWhile_digits hds.2 hrest]

theorem exponentPart_append (layout : Layout) (e : Option Int) {rest : List Char} (hrest : EndsNumber rest) :
    exponentPart (layout.exponentText e ++ rest) = (e, rest) := by
  cases e with
  | none =>
    unfold Layout.exponentText exponentPart
    dsimp only [List.nil_append]
    cases rest with
    | nil => rfl
    | cons c rest =>
      obtain ⟨-, -, he, hE⟩ := hrest c rfl
      simp [he, hE]
  | some e =>
    have hall := allDigits_padLeft layout.exponentDigits e.natAbs
    have hvalue : ofDigits? 0 (padLeft layout.exponentDigits (Nat.toDigits 10 e.natAbs)) = some e.natAbs := by
      rw [ofDigits?_eq hall, ofDigitChars_padLeft]
    have hne := List.isEmpty_eq_false_iff.2 (padLeft_toDigits_ne_nil layout.exponentDigits e.natAbs)
    generalize hds : padLeft layout.exponentDigits (Nat.toDigits 10 e.natAbs) = ds at hall hvalue hne
    have hsign : splitSign ((if e < 0 then '-' else '+') :: (ds ++ rest)) = (decide (e < 0), ds ++ rest) := by
      split_ifs with h <;> simp [splitSign, h]
    have habs : (if decide (e < 0) = true then -(e.natAbs : Int) else e.natAbs) = e := by
      simp only [decide_eq_true_eq]
      split_ifs <;> omega
    unfold Layout.exponentText exponentPart
    simp only [hds, List.cons_append, hsign, takeWhile_digits hall hrest.noDigitNext,
      dropWhile_digits hall hrest.noDigitNext, hvalue, habs, hne]
    simp

theorem head?_exponentText_append (layout : Layout) (e : Option Int) {rest : List Char} (hrest : EndsNumber rest) :
    ∀ c ∈ (layout.exponentText e ++ rest).head?, c.isDigit = false ∧ c ≠ '.' := by
  cases e with
  | none => exact fun c hc => ⟨(hrest c hc).1, (hrest c hc).2.1⟩
  | some e => exact layout.head?_exponentText (some e)

/-- The parts of a decimal are read as they were written. -/
theorem number?_decimalText (negative : Bool) {layout : Layout} {p : DecimalParts} {e : Option Int}
    (h : layout.Fits p e) (hlen : p.whole.length < maxDigits) {rest : List Char} (hrest : EndsNumber rest) :
    number? dialect negative (layout.decimalText p e ++ rest) = some (float (p.toBinary64 negative), rest) := by
  have hexp := head?_exponentText_append layout e hrest
  have hnext : NoDigitNext (layout.exponentText e ++ rest) := fun c hc => (hexp c hc).1
  have hkind : (p.fraction.isEmpty && e.isNone) = false := by
    rcases h.float with hne | hne
    · simp [List.isEmpty_eq_false_iff.2 hne]
    · cases e with
      | none => exact absurd rfl hne
      | some e => simp
  unfold number? Layout.decimalText
  simp only [List.append_assoc]
  rw [integerPart?_append h.whole (noDigitNext_fractionText p.fraction hnext)]
  simp only [Option.bind_eq_bind, Option.bind_some]
  rw [fractionPart_append h.fraction hnext (fun c hc => (hexp c hc).2)]
  simp only [exponentPart_append layout e hrest, hkind, dialect.isTooLong_of_lt _ _ _ hlen, Bool.false_eq_true,
    if_false, ← h.exponent]
  rfl

/-- Digits alone are read as an integer, unless there are too many of them. -/
theorem number?_toDigits (negative : Bool) (n : Nat) {rest : List Char} (hrest : EndsNumber rest) :
    number? dialect negative (Nat.toDigits 10 n ++ rest) =
      some (if dialect.isTooLong negative true (Nat.toDigits 10 n).length then longNumber
        else int (if negative then -n else n), rest) := by
  have hfraction : fractionPart (fractionText [] ++ rest) = ([], rest) :=
    fractionPart_append (fun _ h => by cases h) hrest.noDigitNext (fun c hc => (hrest c hc).2.1)
  have hexp := exponentPart_append .json none hrest
  unfold number?
  rw [integerPart?_append (isIntegerPart_toDigits n) hrest.noDigitNext]
  simp only [Option.bind_eq_bind, Option.bind_some]
  simp only [fractionText, Layout.exponentText, List.nil_append] at hfraction hexp
  simp only [hfraction, hexp, ofDigits?_toDigits]
  simp only [List.isEmpty_nil, Option.isNone_none, Bool.and_self, if_true, Option.getD_some]
  split <;> rfl

/-! ## Numbers as tokens -/

/-- No name starts with a digit. -/
theorem name?_digit {c : Char} {cs : List Char} (hc : c.isDigit = true) : name? (c :: cs) = none := by
  have h1 := digit_ne hc (d := 'n') rfl
  have h2 := digit_ne hc (d := 't') rfl
  have h3 := digit_ne hc (d := 'f') rfl
  have h4 := digit_ne hc (d := 'N') rfl
  have h5 := digit_ne hc (d := 'I') rfl
  have h6 := digit_ne hc (d := '-') rfl
  simp [name?, names, afterName?, Ne.symm h1, Ne.symm h2, Ne.symm h3, Ne.symm h4,
    Ne.symm h5, Ne.symm h6]

/-- No name is a minus sign before a digit. -/
theorem name?_minus_digit {c : Char} {cs : List Char} (hc : c.isDigit = true) :
    name? ('-' :: c :: cs) = none := by
  have h := digit_ne hc (d := 'I') rfl
  simp [name?, names, afterName?, Ne.symm h]

theorem next?_digit {c : Char} {cs : List Char} (hc : c.isDigit = true) :
    next? dialect (c :: cs) = number? dialect false (c :: cs) := by
  rw [next?, if_neg (digit_ne hc rfl), if_neg (digit_ne hc rfl), if_neg (digit_ne hc rfl),
    if_neg (digit_ne hc rfl), if_neg (digit_ne hc rfl), if_neg (digit_ne hc rfl),
    if_neg (digit_ne hc rfl), name?_digit hc]
  exact if_neg (digit_ne hc rfl)

theorem next?_minus_digit {c : Char} {cs : List Char} (hc : c.isDigit = true) :
    next? dialect ('-' :: c :: cs) = number? dialect true (c :: cs) := by
  simp [next?, name?_minus_digit hc]

theorem next?_sign (negative : Bool) {cs : List Char} (hcs : StartsWithDigit cs) :
    next? dialect (signText negative ++ cs) = number? dialect negative cs := by
  obtain ⟨c, ds, rfl, hc⟩ := hcs
  cases negative with
  | false => exact next?_digit dialect hc
  | true => exact next?_minus_digit dialect hc

/-- No number starts with a blank. -/
theorem signText_head (negative : Bool) {cs : List Char} (hcs : StartsWithDigit cs) :
    ∃ c ds, signText negative ++ cs = c :: ds ∧ isBlank c = false := by
  obtain ⟨c, ds, rfl, hc⟩ := hcs
  cases negative with
  | false =>
    refine ⟨c, ds, rfl, ?_⟩
    simp [isBlank, digit_ne hc (d := ' ') rfl, digit_ne hc (d := '\t') rfl,
      digit_ne hc (d := '\n') rfl, digit_ne hc (d := '\r') rfl]
  | true => exact ⟨'-', c :: ds, rfl, rfl⟩

theorem textList_head {x : Binary64} (hx : x.isFinite = true) :
    ∃ c cs, x.textList .json = c :: cs ∧ isBlank c = false := by
  obtain ⟨negative, p, e, htext, hfits, -⟩ := Layout.json.textList_finite hx
  rw [htext]
  exact signText_head negative hfits.startsWithDigit

theorem digits_head (n : Int) : ∃ c cs, Integer.digits n = c :: cs ∧ isBlank c = false := by
  rw [digits_eq_signText]
  exact signText_head _ (startsWithDigit_toDigits _)

/-- A finite floating-point number is read as it was written: it has few digits before the point. -/
theorem next?_textList {x : Binary64} (hx : x.isFinite = true) {rest : List Char}
    (hrest : EndsNumber rest) : next? dialect (x.textList .json ++ rest) = some (float x, rest) := by
  obtain ⟨negative, p, e, htext, hfits, hvalue, -⟩ := Layout.json.textList_finite hx
  have hlen : p.whole.length < maxDigits := by
    have : (p.whole.length : Int) ≤ 16 := hfits.length_whole
    unfold maxDigits
    omega
  rw [htext, List.append_assoc, next?_sign _ _ (hfits.startsWithDigit.append rest),
    number?_decimalText dialect negative hfits hlen hrest, hvalue]

/-- An integer is read as it was written, unless it is too long. -/
theorem next?_digits (n : Int) {rest : List Char} (hrest : EndsNumber rest) :
    next? dialect (Integer.digits n ++ rest) =
      some (if dialect.Admits n then int n else longNumber, rest) := by
  have habs : (if decide (n < 0) = true then -(n.natAbs : Int) else n.natAbs) = n := by
    simp only [decide_eq_true_eq]
    split_ifs <;> omega
  rw [digits_eq_signText, List.append_assoc, next?_sign _ _ ((startsWithDigit_toDigits _).append rest),
    number?_toDigits _ _ _ hrest, habs]
  by_cases h : dialect.Admits n
  · rw [if_pos h, show dialect.isTooLong _ _ _ = false from h]
    rfl
  · rw [if_neg h, show dialect.isTooLong _ _ _ = true from eq_true_of_ne_false h]
    rfl

end Token

end Segmentation.Json
