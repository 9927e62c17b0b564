import Segmentation.Number.Decimal
import Segmentation.Proofs.Number.Integers
import Segmentation.Proofs.Number.Layout

/-!
# Reading integers and decimals that were written

* `Binary64.ofDecimal_integer`: a decimal without fraction and exponent is rounded as the integer is.
* `Binary64.ofText?_digits`: the digits of an integer are read as the floating-point number nearest to it.
* `Decimal.Writes`, `Decimal.exists_writes`: whichever form the text of a decimal takes, its parts are the digits and
  the exponent of the decimal.
* `Decimal.ofText?_text`, `Decimal.ofText?_text_infinite`, `Decimal.ofText?_text_nan`: so the text of a finite decimal
  is read as the floating-point number nearest to it, and the special values are read as such.
-/

namespace Segmentation

namespace Binary64

/-- Integers of more than 310 digits are infinite. -/
theorem horizon_le_units {n : Nat} (hn : 310 < digitCount n) : horizon ≤ units n 1 := by
  have hpos : 0 < n := by
    rcases Nat.eq_zero_or_pos n with rfl | hpos
    · exact absurd hn (by decide)
    · exact hpos
  have hlarge : 2 ^ 1024 ≤ n := by
    calc 2 ^ 1024 ≤ 10 ^ 310 := by decide +kernel
      _ ≤ 10 ^ (digitCount n - 1) := Nat.pow_le_pow_right (by decide) (by omega)
      _ ≤ n := digitCount_le n hpos
  have hcast : ((2 ^ 1024 : Nat) : ℚ) / (1 : Nat) ≤ n / (1 : Nat) := by
    gcongr
  calc horizon ≤ units (2 ^ 1024) 1 := by decide +kernel
    _ ≤ units n 1 := units_mono Nat.one_pos Nat.one_pos hcast

/-- An integer is read as the nearest number, however many digits it has. -/
theorem ofDecimal_integer (negative : Bool) (n : Nat) : ofDecimal negative n 0 = ofRatio negative n 1 := by
  unfold ofDecimal
  dsimp only
  split_ifs with hzero hlong hshort
  · rw [hzero, ofRatio_zero]
  · have hfinite : (ofRatio negative n 1).isFinite = false := by
      rw [← Bool.not_eq_true, (position_ofRatio negative Nat.one_pos).2, not_lt]
      exact horizon_le_units (by omega)
    exact (ofRatio_eq_infinite hfinite).symm
  · omega
  · rw [Int.toNat_zero, Nat.pow_eq, Nat.pow_zero, Nat.mul_one]
  · omega

theorem ofList?_toDigits (n : Nat) :
    DecimalParts.ofList? (Nat.toDigits 10 n) = some ⟨Nat.toDigits 10 n, [], 0⟩ := by
  have hread : DecimalParts.ofList? (Nat.toDigits 10 n ++ []) = some ⟨Nat.toDigits 10 n, [], 0⟩ :=
    DecimalParts.ofList?_whole (Integer.allDigits_toDigits n) Nat.toDigits_ne_nil nofun rfl
  rwa [List.append_nil] at hread

theorem ofText?_digits (n : Int) : ofText? (String.ofList (Integer.digits n)) = some (ofInt n) := by
  rw [(Integer.onlyNumberChars_digits n).ofText?, Integer.digits_eq_signText,
    ofSigned?_signText _ (Integer.startsWithDigit_toDigits _), ofList?_toDigits, Option.map_some,
    DecimalParts.toBinary64, List.append_nil, Integer.ofDigits?_toDigits]
  exact congrArg some (ofDecimal_integer _ _)

end Binary64

/-! ## Decimals -/

namespace Decimal

open Binary64 Integer

/-- The characters in the text of a finite decimal. -/
def textChars : List Char :=
  "0123456789.E+-".toList

theorem mem_textChars_of_isDigit {c : Char} (h : c.isDigit = true) : c ∈ textChars := by
  have hall : ∀ c ∈ Text.numberChars, c.isDigit = true → c ∈ textChars :=
    forall_mem_of_all (by decide)
  exact hall c (Text.mem_numberChars_of_isDigit h) h

theorem isPlain_of_mem_textChars : ∀ c ∈ textChars, Text.IsPlain c :=
  forall_mem_of_all (by decide +kernel)

/-- The text is that of an unsigned decimal with the parts. -/
structure Writes (p : DecimalParts) (cs : List Char) : Prop where
  read : DecimalParts.ofList? cs = some p
  start : StartsWithDigit cs
  chars : ∀ c ∈ cs, c ∈ textChars

section Writes

variable {whole fraction rest : List Char} {e : Int}

theorem mem_textChars_of_allDigits (h : AllDigits whole) : ∀ c ∈ whole, c ∈ textChars :=
  fun c hc => mem_textChars_of_isDigit (h c hc)

theorem writes_whole (hwhole : AllDigits whole) (hne : whole ≠ []) (hchars : ∀ c ∈ rest, c ∈ textChars)
    (hrest : ∀ c ∈ rest.head?, c.isDigit = false ∧ c ≠ '.') (he : exponentOf? rest = some e) :
    Writes ⟨whole, [], e⟩ (whole ++ rest) where
  read := DecimalParts.ofList?_whole hwhole hne hrest he
  start := (hwhole.startsWithDigit hne).append _
  chars := List.forall_mem_append.2 ⟨mem_textChars_of_allDigits hwhole, hchars⟩

theorem writes_point (hwhole : AllDigits whole) (hne : whole ≠ []) (hfraction : AllDigits fraction)
    (hchars : ∀ c ∈ rest, c ∈ textChars) (hrest : NoDigitNext rest) (he : exponentOf? rest = some e) :
    Writes ⟨whole, fraction, e⟩ (whole ++ '.' :: (fraction ++ rest)) where
  read := DecimalParts.ofList?_point hwhole hne hfraction hrest he
  start := (hwhole.startsWithDigit hne).append _
  chars := by
    refine List.forall_mem_append.2 ⟨mem_textChars_of_allDigits hwhole, List.forall_mem_cons.2 ⟨by decide, ?_⟩⟩
    exact List.forall_mem_append.2 ⟨mem_textChars_of_allDigits hfraction, hchars⟩

end Writes

/-- Parts with the digits and the exponent of a decimal stand for the number nearest to it. -/
theorem toBinary64_eq {p : DecimalParts} {n : Nat} {exp : Int} (hdigits : AllDigits (p.whole ++ p.fraction))
    (hvalue : Nat.ofDigitChars 10 (p.whole ++ p.fraction) 0 = n) (hexp : p.exponent - p.fraction.length = exp)
    (negative : Bool) : p.toBinary64 negative = ofDecimal negative n exp := by
  unfold DecimalParts.toBinary64
  rw [ofDigits?_eq hdigits, hvalue, hexp]
  rfl

/-- The parts have the digits and the exponent of a decimal. -/
structure PartsOf (n : Nat) (exp : Int) (p : DecimalParts) : Prop where
  digits : AllDigits (p.whole ++ p.fraction)
  value : Nat.ofDigitChars 10 (p.whole ++ p.fraction) 0 = n
  exponent : p.exponent - p.fraction.length = exp

theorem exists_writes_whole (n : Nat) : ∃ p, Writes p (Nat.toDigits 10 n) ∧ PartsOf n 0 p := by
  have hwrites : Writes ⟨Nat.toDigits 10 n, [], 0⟩ (Nat.toDigits 10 n ++ []) :=
    writes_whole (allDigits_toDigits n) Nat.toDigits_ne_nil nofun nofun rfl
  rw [List.append_nil] at hwrites
  refine ⟨_, hwrites, ?_, ?_, rfl⟩
  · rw [List.append_nil]
    exact allDigits_toDigits n
  · rw [List.append_nil, Nat.ofDigitChars_ten_toDigits]

theorem exists_writes_positional {n places : Nat} (hplaces : 0 < places) :
    ∃ p, Writes p ((padLeft (places + 1) (Nat.toDigits 10 n)).take
        ((padLeft (places + 1) (Nat.toDigits 10 n)).length - places) ++
        '.' :: (padLeft (places + 1) (Nat.toDigits 10 n)).drop
          ((padLeft (places + 1) (Nat.toDigits 10 n)).length - places)) ∧ PartsOf n (-places) p := by
  have hall := allDigits_padLeft (places + 1) n
  have hvalue := ofDigitChars_padLeft (places + 1) n
  have hlength := length_padLeft (places + 1) (Nat.toDigits 10 n)
  generalize padLeft (places + 1) (Nat.toDigits 10 n) = padded at hall hvalue hlength ⊢
  have hwhole : AllDigits (padded.take (padded.length - places)) := fun c hc => hall c (List.mem_of_mem_take hc)
  have hfraction : AllDigits (padded.drop (padded.length - places)) := fun c hc => hall c (List.mem_of_mem_drop hc)
  have hne : padded.take (padded.length - places) ≠ [] := by
    rw [← List.length_pos_iff, List.length_take]
    omega
  have hwrites : Writes ⟨padded.take (padded.length - places), padded.drop (padded.length - places), 0⟩
      (padded.take (padded.length - places) ++ '.' :: (padded.drop (padded.length - places) ++ [])) :=
    writes_point hwhole hne hfraction nofun nofun rfl
  rw [List.append_nil] at hwrites
  refine ⟨_, hwrites, ?_, ?_, ?_⟩
  · rw [List.take_append_drop]
    exact hall
  · rw [List.take_append_drop]
    exact hvalue
  · change (0 : Int) - (padded.drop (padded.length - places)).length = -places
    rw [List.length_drop]
    omega

/-- An exponent behind its mark, with a sign in any case. -/
def exponentText (e : Int) : List Char :=
  'E' :: (if e < 0 then '-' else '+') :: Binary64.digits e.natAbs

theorem exponentOf?_exponentText (e : Int) : exponentOf? (exponentText e) = some e :=
  exponentOf?_signed (.inr rfl) Nat.toDigits_ne_nil (allDigits_toDigits _) Nat.ofDigitChars_ten_toDigits

theorem mem_textChars_of_exponentText (e : Int) : ∀ c ∈ exponentText e, c ∈ textChars := by
  refine List.forall_mem_cons.2 ⟨by decide, List.forall_mem_cons.2 ⟨?_, ?_⟩⟩
  · split_ifs <;> decide
  · exact mem_textChars_of_allDigits (allDigits_toDigits _)

theorem exists_writes_exponential {n : Nat} {exp leading : Int} {d : Char} {ds : List Char}
    (hds : Nat.toDigits 10 n = d :: ds) (hleading : leading = exp + (d :: ds).length - 1) :
    ∃ p, Writes p ((match d :: ds with
      | d :: e :: rest => d :: '.' :: e :: rest
      | one => one) ++ exponentText leading) ∧ PartsOf n exp p := by
  have hall := allDigits_toDigits n
  have hvalue := Nat.ofDigitChars_ten_toDigits (n := n)
  rw [hds] at hall hvalue
  obtain ⟨hd, htail⟩ := allDigits_cons.1 hall
  have hwhole : AllDigits [d] := allDigits_cons.2 ⟨hd, nofun⟩
  have hexponent := exponentOf?_exponentText leading
  have hchars := mem_textChars_of_exponentText leading
  have hparts : PartsOf n exp ⟨[d], ds, leading⟩ := by
    refine ⟨hall, hvalue, ?_⟩
    dsimp only
    rw [hleading, List.length_cons]
    push_cast
    omega
  refine ⟨_, ?_, hparts⟩
  cases ds with
  | nil =>
    refine writes_whole hwhole (List.cons_ne_nil _ _) hchars ?_ hexponent
    rintro c ⟨⟩
    exact ⟨rfl, by decide⟩
  | cons e rest =>
    refine writes_point hwhole (List.cons_ne_nil _ _) htail hchars ?_ hexponent
    rintro c ⟨⟩
    rfl

/-- Whichever form the text of a decimal takes, its parts are the digits and the exponent of the decimal. -/
theorem exists_writes (n : Nat) (exp : Int) : ∃ p, Writes p (magnitude n exp) ∧ PartsOf n exp p := by
  unfold magnitude Binary64.digits
  dsimp only
  by_cases hpositional : exp ≤ 0 ∧ -6 ≤ exp + (Nat.toDigits 10 n).length - 1
  · rw [if_pos hpositional]
    by_cases hzero : exp = 0
    · rw [if_pos hzero, hzero]
      exact exists_writes_whole n
    · have hplaces : 0 < (-exp).toNat := by omega
      obtain ⟨p, hwrites, hparts⟩ := exists_writes_positional (n := n) hplaces
      rw [show -((-exp).toNat : Int) = exp by omega] at hparts
      rw [if_neg hzero]
      exact ⟨p, hwrites, hparts⟩
  · obtain ⟨d, ds, hds, -⟩ := startsWithDigit_toDigits n
    rw [if_neg hpositional, hds]
    exact exists_writes_exponential hds rfl

theorem sign_eq_signText (negative : Bool) : sign negative = signText negative := by
  cases negative <;> rfl

theorem isPlain_of_textChars {cs : List Char} (h : ∀ c ∈ cs, c ∈ textChars) : ∀ c ∈ cs, Text.IsPlain c :=
  fun c hc => isPlain_of_mem_textChars c (h c hc)

/-- Text of plain characters with a sign is read as it stands. -/
theorem ofText?_signed (negative : Bool) {cs : List Char} (h : ∀ c ∈ cs, Text.IsPlain c) :
    Binary64.ofText? (Text.trim (String.ofList (sign negative ++ cs))) =
      Binary64.ofSigned? (sign negative ++ cs) := by
  have hplain : ∀ c ∈ sign negative ++ cs, Text.IsPlain c := by
    refine List.forall_mem_append.2 ⟨?_, h⟩
    cases negative with
    | false => nofun
    | true => exact List.forall_mem_cons.2 ⟨by decide +kernel, nofun⟩
  rw [Text.trim, String.toList_ofList, Text.trimList_of_plain hplain, ofText?_of_plain hplain]

/-- A text that begins as the name of what is not a number stands for nothing else. -/
theorem eq_nan_of_ofSigned? (negative : Bool) (cs : List Char) :
    ∀ x ∈ Binary64.ofSigned? (sign negative ++ 'N' :: cs), x = .nan := by
  have hsplit : splitSign (sign negative ++ 'N' :: cs) = (negative, 'N' :: cs) := by
    cases negative <;> rfl
  exact fun x hx => (ofSigned?_of_noDecimal hsplit rfl (by decide) x hx).1

/-- The text of a finite decimal is read as the floating-point number nearest to it. -/
theorem ofText?_text (negative : Bool) (n : Nat) (exp : Int) :
    Binary64.ofText? (Text.trim (finite negative n exp).text) = some (ofDecimal negative n exp) := by
  obtain ⟨p, hwrites, hparts⟩ := exists_writes n exp
  rw [text, ofText?_signed negative (isPlain_of_textChars hwrites.chars), sign_eq_signText,
    Binary64.ofSigned?_signText negative hwrites.start, hwrites.read, Option.map_some,
    toBinary64_eq hparts.digits hparts.value hparts.exponent]

theorem ofText?_text_infinite (negative : Bool) :
    Binary64.ofText? (Text.trim (infinite negative).text) = some (.infinite negative) := by
  have hplain : ∀ c ∈ "Infinity".toList, Text.IsPlain c := forall_mem_of_all (by decide +kernel)
  rw [text, ofText?_signed negative hplain]
  cases negative <;> decide +kernel

/-- What is not a number is read as such, or not at all. -/
theorem ofText?_text_nan (negative : Bool) (payload : Nat) :
    ∀ x ∈ Binary64.ofText? (Text.trim (nan negative false payload).text), x = .nan := by
  have hname : ∀ c ∈ "NaN".toList, Text.IsPlain c := forall_mem_of_all (by decide +kernel)
  have hplain : ∀ c ∈ "NaN".toList ++ (if payload = 0 then [] else Binary64.digits payload), Text.IsPlain c := by
    refine List.forall_mem_append.2 ⟨hname, ?_⟩
    split_ifs
    · nofun
    · exact isPlain_of_textChars (mem_textChars_of_allDigits (allDigits_toDigits payload))
  rw [text, if_neg Bool.false_ne_true, List.append_assoc, ofText?_signed negative hplain]
  exact eq_nan_of_ofSigned? negative _

end Decimal

end Segmentation
