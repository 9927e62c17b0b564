import Mathlib.Data.List.TakeWhile
import Segmentation.Number.Binary64.Reader
import Segmentation.Proofs.Text

/-!
# Digits

* `Integer.AllDigits`, `Integer.NoDigitNext`: where a run of digits ends.
* `Integer.ofDigits?_toDigits`: a number is read back from its digits.
* `Integer.toString_inj`: different integers are written differently.
* `Text.hexValue?_digitChar`: so is a hexadecimal digit.
* `Integer.IsShort`: the integers whose text is no longer than the longest number, with its sign.
* `Binary64.isShort_truncate`: so is the integer part of a floating-point number.
* `Text.IsPlain`, `Binary64.ofText?_of_plain`: text of such characters is read as it stands.
* `Binary64.ofSigned?_of_noDecimal`: text without digits at its start stands for no number but by a name.
* `DecimalParts.ofList?_whole`, `DecimalParts.ofList?_point`: the parts of a decimal are found.
-/

namespace Segmentation

namespace Integer

/-- Digits only. -/
def AllDigits (cs : List Char) : Prop :=
  ∀ c ∈ cs, c.isDigit = true

theorem allDigits_append {cs ds : List Char} :
    AllDigits (cs ++ ds) ↔ AllDigits cs ∧ AllDigits ds := by
  unfold AllDigits
  constructor
  · intro h
    exact ⟨fun c hc => h c (List.mem_append_left _ hc), fun c hc => h c (List.mem_append_right _ hc)⟩
  · rintro ⟨hcs, hds⟩ c hc
    rcases List.mem_append.1 hc with h | h
    · exact hcs c h
    · exact hds c h

theorem allDigits_cons {c : Char} {cs : List Char} :
    AllDigits (c :: cs) ↔ c.isDigit = true ∧ AllDigits cs := by
  simp [AllDigits]

theorem allDigits_replicate (n : Nat) : AllDigits (List.replicate n '0') := by
  intro c hc
  rw [(List.mem_replicate.1 hc).2]
  rfl

theorem allDigits_toDigits (n : Nat) : AllDigits (Nat.toDigits 10 n) :=
  fun _ hc => Nat.isDigit_of_mem_toDigits (by decide) (by decide) hc

/-- Digits stand for the number that their list denotes. -/
theorem ofDigits?_eq {cs : List Char} (hcs : AllDigits cs) (acc : Nat) :
    ofDigits? acc cs = some (Nat.ofDigitChars 10 cs acc) := by
  induction cs generalizing acc with
  | nil => rfl
  | cons c cs ih =>
    rw [allDigits_cons] at hcs
    rw [ofDigits?, if_pos hcs.1, ih hcs.2, Nat.ofDigitChars_cons, Nat.mul_comm]
    rfl

theorem ofDigits?_toDigits (n : Nat) : ofDigits? 0 (Nat.toDigits 10 n) = some n := by
  rw [ofDigits?_eq (allDigits_toDigits n), Nat.ofDigitChars_ten_toDigits]

/-- The text does not go on with a digit. -/
def NoDigitNext (rest : List Char) : Prop :=
  ∀ c ∈ rest.head?, c.isDigit = false

theorem takeWhile_digits {cs rest : List Char} (hcs : AllDigits cs) (hrest : NoDigitNext rest) :
    (cs ++ rest).takeWhile Char.isDigit = cs := by
  rw [List.takeWhile_append_of_pos hcs]
  cases rest with
  | nil => simp
  | cons c rest => simp [hrest c rfl]

theorem dropWhile_digits {cs rest : List Char} (hcs : AllDigits cs) (hrest : NoDigitNext rest) :
    (cs ++ rest).dropWhile Char.isDigit = rest := by
  rw [List.dropWhile_append_of_pos hcs]
  cases rest with
  | nil => simp
  | cons c rest => simp [hrest c rfl]

/-- A number is written without a zero in front. -/
theorem toDigits_cons {n : Nat} (hn : n ≠ 0) :
    ∃ c cs, Nat.toDigits 10 n = c :: cs ∧ c ≠ '0' := by
  induction n using Nat.strongRecOn with
  | _ n ih =>
    rcases Nat.lt_or_ge n 10 with hlt | hge
    · exact ⟨_, [], Nat.toDigits_of_lt_base hlt, by simpa using hn⟩
    · obtain ⟨c, cs, hcs, hc⟩ := ih (n / 10) (by omega) (by omega)
      exact ⟨c, _, by rw [Nat.toDigits_of_base_le (by decide) hge, hcs, List.cons_append], hc⟩

theorem toDigits_injective : Function.Injective (Nat.toDigits 10) := by
  intro m n h
  have hm := ofDigits?_toDigits m
  rw [h, ofDigits?_toDigits] at hm
  exact (Option.some.inj hm).symm

/-- The sign is no digit, so that integers of different signs are not written alike. -/
theorem digits_injective : Function.Injective digits := by
  have hminus : ∀ n cs, Nat.toDigits 10 n ≠ '-' :: cs := fun n cs h =>
    absurd (allDigits_toDigits n '-' (h ▸ List.mem_cons_self)) (by decide)
  intro m n h
  unfold digits at h
  split at h <;> split at h
  · have := toDigits_injective (List.append_cancel_left h)
    omega
  · exact absurd h.symm (hminus _ _)
  · exact absurd h (hminus _ _)
  · have := toDigits_injective (List.append_cancel_left h)
    omega

theorem toList_toString (n : Int) : (toString n).toList = digits n := by
  cases n with
  | ofNat n => exact String.toList_ofList
  | negSucc n =>
    have hminus : "-".toList = ['-'] := rfl
    have hrepr : (Nat.repr (n + 1)).toList = Nat.toDigits 10 (n + 1) := String.toList_ofList
    rw [digits, if_pos (Int.negSucc_lt_zero n), Int.natAbs_negSucc]
    exact String.toList_append.trans (by rw [hminus, hrepr])

theorem toString_inj {m n : Int} : toString m = toString n ↔ m = n := by
  constructor
  · intro h
    have hlist := congrArg String.toList h
    rw [toList_toString, toList_toString] at hlist
    exact digits_injective hlist
  · exact congrArg toString

theorem hasText_iff {n : Nat} : n < Nat.pow 10 maxDigits ↔ (Nat.toDigits 10 n).length ≤ maxDigits :=
  (Nat.length_toDigits_le_iff (by decide) (by decide)).symm

theorem length_digits (n : Int) :
    (digits n).length = (decide (n < 0)).toNat + (Nat.toDigits 10 n.natAbs).length := by
  unfold digits
  split_ifs with hneg
  · simp [hneg, Nat.add_comm]
  · simp [hneg]

/-- The integer is no longer than the longest text, in which its sign counts. -/
def IsShort (n : Int) : Prop :=
  (digits n).length ≤ maxDigits

theorem IsShort.hasText {n : Int} (h : IsShort n) : HasText n := by
  rw [IsShort, length_digits] at h
  have hlength : (Nat.toDigits 10 n.natAbs).length ≤ maxDigits := by omega
  exact hasText_iff.2 hlength

end Integer

theorem Text.hexValue?_digitChar {n : Nat} (hn : n < 16) : hexValue? n.digitChar = some n := by
  have h : ∀ m < 16, hexValue? (Nat.digitChar m) = some m := by decide
  exact h n hn

namespace Binary64

theorem natAbs_truncate_lt (x : Binary64) : x.truncate.natAbs < Nat.pow 2 1024 := by
  cases x with
  | finite negative mant exp canonical =>
    obtain ⟨hmant, -, hexp, -⟩ := canonical
    have hlt : (if 0 ≤ exp then mant * Nat.pow 2 exp.toNat else mant / Nat.pow 2 (-exp).toNat) <
        Nat.pow 2 1024 := by
      have hfull : Nat.pow 2 53 * Nat.pow 2 971 = Nat.pow 2 1024 := by decide +kernel
      split
      · have hnat : exp.toNat ≤ 971 := by omega
        rw [← hfull]
        exact Nat.mul_lt_mul_of_lt_of_le hmant (Nat.pow_le_pow_right (by decide) hnat)
          (Nat.pow_pos (by decide))
      · exact Nat.lt_of_le_of_lt (Nat.div_le_self _ _)
          (Nat.lt_of_lt_of_le hmant (Nat.pow_le_pow_right (by decide) (by decide)))
    unfold truncate
    dsimp only
    split
    · rwa [Int.natAbs_neg, Int.natAbs_natCast]
    · rwa [Int.natAbs_natCast]
  | _ => exact Nat.pow_pos (by decide)

theorem isShort_truncate (x : Binary64) : Integer.IsShort x.truncate := by
  have hlong : Nat.pow 2 1024 ≤ 10 ^ (Integer.maxDigits - 1) := by decide +kernel
  have hlength : (Nat.toDigits 10 x.truncate.natAbs).length ≤ Integer.maxDigits - 1 :=
    (Nat.length_toDigits_le_iff (by decide) (by decide)).2 (Nat.lt_of_lt_of_le x.natAbs_truncate_lt hlong)
  have hsign := (decide (x.truncate < 0)).toNat_le
  have hpositive : 1 ≤ Integer.maxDigits := by decide
  rw [Integer.IsShort, Integer.length_digits]
  omega

theorem hasText_truncate (x : Binary64) : Integer.HasText x.truncate :=
  x.isShort_truncate.hasText

end Binary64

/-! ## Reading decimals -/

/-- A character that reading a number leaves as it is: no blank, no digit of another script and no underscore. -/
def Text.IsPlain (c : Char) : Prop :=
  isBlank c = false ∧ asciiDigits [c] = [c] ∧ c ≠ '_'

instance (c : Char) : Decidable (Text.IsPlain c) :=
  inferInstanceAs (Decidable (_ ∧ _))

theorem Text.asciiDigits_of_plain {cs : List Char} (h : ∀ c ∈ cs, IsPlain c) : asciiDigits cs = cs :=
  (List.map_congr_left fun c hc => (List.cons.inj (h c hc).2.1).1).trans (List.map_id cs)

theorem Text.trimList_of_plain {cs : List Char} (h : ∀ c ∈ cs, IsPlain c) : trimList isBlank cs = cs :=
  trimList_eq_self (fun c hc => (h c (List.mem_of_head? hc)).1) fun c hc => (h c (List.mem_of_getLast? hc)).1

theorem Integer.withoutUnderscores?_of_notMem {cs : List Char} (h : '_' ∉ cs) (afterDigit : Bool) :
    withoutUnderscores? afterDigit cs = some cs := by
  induction cs generalizing afterDigit with
  | nil => rfl
  | cons x cs ih =>
    rw [List.mem_cons, not_or] at h
    rw [withoutUnderscores?.eq_def]
    split
    · rename_i heq
      cases heq
    · rename_i heq
      exact absurd (List.cons.inj heq).1.symm h.1
    · rename_i heq
      obtain ⟨rfl, rfl⟩ := List.cons.inj heq
      rw [ih h.2]
      rfl

namespace Binary64

open Integer (AllDigits NoDigitNext)

/-- Text of plain characters is read as it stands. -/
theorem ofText?_of_plain {cs : List Char} (h : ∀ c ∈ cs, Text.IsPlain c) :
    ofText? (String.ofList cs) = ofSigned? cs := by
  have hunderscore : '_' ∉ cs := fun hmem => (h _ hmem).2.2 rfl
  rw [ofText?, String.toList_ofList, Text.trimList_of_plain h, Text.asciiDigits_of_plain h,
    Integer.withoutUnderscores?_of_notMem hunderscore, Option.bind_some]

/-- Text in which no digit and no point follows the sign stands for no number but by a name. -/
theorem ofSigned?_of_noDecimal {cs rest : List Char} {negative : Bool} {c : Char}
    (hsplit : Integer.splitSign cs = (negative, c :: rest)) (hparts : DecimalParts.ofList? (c :: rest) = none)
    (hname : c.toLower ≠ 'i') : ∀ x ∈ ofSigned? cs, x = .nan ∧ c.toLower = 'n' := by
  have hlower : ∀ s : String, String.ofList ((c :: rest).map Char.toLower) = s → s.toList.head? = some c.toLower := by
    rintro s rfl
    rw [String.toList_ofList]
    rfl
  have hinfinite : ∀ s : String, s.toList.head? = some 'i' → String.ofList ((c :: rest).map Char.toLower) ≠ s :=
    fun s hs heq => hname (Option.some.inj ((hlower s heq).symm.trans hs))
  rw [ofSigned?, hsplit]
  simp only [hinfinite "inf" rfl, hinfinite "infinity" rfl, decide_false, Bool.or_self, Bool.false_eq_true, if_false,
    hparts, Option.map_none]
  split_ifs with hnan
  · intro x hx
    exact ⟨(Option.some.inj hx).symm, (Option.some.inj (hlower "nan" hnan)).symm⟩
  · exact fun x hx => by cases hx

/-- An exponent is read from its mark, its sign and its digits. -/
theorem exponentOf?_signed {mark : Char} {e : Int} {ds : List Char} (hmark : mark = 'e' ∨ mark = 'E')
    (hne : ds ≠ []) (hds : AllDigits ds) (hvalue : Nat.ofDigitChars 10 ds 0 = e.natAbs) :
    exponentOf? (mark :: (if e < 0 then '-' else '+') :: ds) = some e := by
  have hsign : Integer.splitSign ((if e < 0 then '-' else '+') :: ds) = (decide (e < 0), ds) := by
    split_ifs with h <;> simp [Integer.splitSign, h]
  have habs : (if decide (e < 0) = true then -(e.natAbs : Int) else e.natAbs) = e := by
    simp only [decide_eq_true_eq]
    split_ifs <;> omega
  have hmarked : (decide (mark = 'e') || decide (mark = 'E')) = true := by simpa using hmark
  have hempty : ds.isEmpty = false := List.isEmpty_eq_false_iff.2 hne
  rw [exponentOf?, hmarked, if_pos rfl, hsign]
  dsimp only
  rw [hempty, if_neg Bool.false_ne_true, Integer.ofDigits?_eq hds, hvalue]
  exact congrArg some habs

namespace DecimalParts

variable {whole fraction rest : List Char} {e : Int}

/-- Digits without a point behind them are all in front of it. -/
theorem ofList?_whole (hwhole : AllDigits whole) (hne : whole ≠ [])
    (hrest : ∀ c ∈ rest.head?, c.isDigit = false ∧ c ≠ '.') (he : exponentOf? rest = some e) :
    ofList? (whole ++ rest) = some ⟨whole, [], e⟩ := by
  have hend : NoDigitNext rest := fun c hc => (hrest c hc).1
  have hempty : whole.isEmpty = false := List.isEmpty_eq_false_iff.2 hne
  unfold ofList?
  rw [Integer.takeWhile_digits hwhole hend, Integer.dropWhile_digits hwhole hend]
  split
  · rename_i heq
    split at heq
    · exact absurd rfl (hrest '.' rfl).2
    · cases heq
      dsimp only
      rw [hempty, Bool.false_and, if_neg Bool.false_ne_true, he]
      rfl

/-- A point divides the digits. -/
theorem ofList?_point (hwhole : AllDigits whole) (hne : whole ≠ []) (hfraction : AllDigits fraction)
    (hrest : NoDigitNext rest) (he : exponentOf? rest = some e) :
    ofList? (whole ++ '.' :: (fraction ++ rest)) = some ⟨whole, fraction, e⟩ := by
  have hpoint : NoDigitNext ('.' :: (fraction ++ rest)) := by simp [NoDigitNext]
  have hempty : whole.isEmpty = false := List.isEmpty_eq_false_iff.2 hne
  unfold ofList?
  rw [Integer.takeWhile_digits hwhole hpoint, Integer.dropWhile_digits hwhole hpoint]
  simp only [Integer.takeWhile_digits hfraction hrest, Integer.dropWhile_digits hfraction hrest, hempty,
    Bool.false_and, Bool.false_eq_true, if_false, he, Option.map_some]

end DecimalParts

end Binary64

end Segmentation
