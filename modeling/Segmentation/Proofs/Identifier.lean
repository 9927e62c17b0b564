import Segmentation.Identifier
import Segmentation.Proofs.Number.Digits

/-!
# Identifiers never repeat

* `ofHex?_digits`: a number is read back from the hexadecimal digits of its identifier.
* `notMem_text`: an identifier has hexadecimal digits and dashes only.
* `text_injective`: different numbers have different identifiers.
-/

namespace Segmentation

namespace Text

theorem ofHex?_append (acc : Nat) (cs ds : List Char) :
    ofHex? acc (cs ++ ds) = (ofHex? acc cs).bind fun n => ofHex? n ds := by
  induction cs generalizing acc with
  | nil => rfl
  | cons c cs ih =>
    rw [List.cons_append, ofHex?, ofHex?]
    cases hexValue? c with
    | none => rfl
    | some d => exact ih _

theorem ofHex?_replicate (n : Nat) : ofHex? 0 (List.replicate n '0') = some 0 := by
  induction n with
  | zero => rfl
  | succ n ih => exact ih

theorem ofHex?_toDigits (n : Nat) : ofHex? 0 (Nat.toDigits 16 n) = some n := by
  induction n using Nat.strongRecOn with
  | _ n ih =>
    rcases Nat.lt_or_ge n 16 with hlt | hge
    · rw [Nat.toDigits_of_lt_base hlt, ofHex?, hexValue?_digitChar hlt]
      simp [ofHex?]
    · have hquotient := ih (n / 16) (by omega)
      rw [Nat.toDigits_of_base_le (by decide) hge, ofHex?_append, hquotient, Option.bind_some, ofHex?,
        hexValue?_digitChar (Nat.mod_lt _ (by decide)), Option.bind_some, ofHex?, Nat.div_add_mod']

theorem notMem_of_ofHex? {c : Char} (hc : hexValue? c = none) {acc n : Nat} {cs : List Char}
    (h : ofHex? acc cs = some n) : c ∉ cs := by
  induction cs generalizing acc with
  | nil => exact List.not_mem_nil
  | cons d cs ih =>
    rw [ofHex?] at h
    cases hd : hexValue? d with
    | none =>
      rw [hd] at h
      cases h
    | some value =>
      rw [hd] at h
      have hne : c ≠ d := by
        rintro rfl
        cases hc.symm.trans hd
      exact List.not_mem_cons_of_ne_of_not_mem hne (ih h)

end Text

namespace IdSupply

theorem ofHex?_digits (n : Nat) : Text.ofHex? 0 (digits n) = some n := by
  unfold digits
  rw [Text.ofHex?_append, Text.ofHex?_replicate, Option.bind_some, Text.ofHex?_toDigits]

theorem le_length_digits (n : Nat) : 30 ≤ (digits n).length := by
  unfold digits
  rw [List.length_append, List.length_replicate]
  omega

/-- An identifier shows all digits of its number, in groups of which only the first varies in length. -/
structure Spelled (n : Nat) (first second third fourth last : List Char) : Prop where
  digits : digits n = first ++ (second ++ (third ++ (fourth ++ last)))
  length_second : second.length = 4
  length_third : third.length = 3
  length_fourth : fourth.length = 3
  length_last : last.length = 12
  text : text n = String.ofList (first ++ ('-' :: second ++ ('-' :: '4' :: third ++
    ('-' :: '8' :: fourth ++ '-' :: last))))

theorem exists_spelled (n : Nat) :
    ∃ first second third fourth last, Spelled n first second third fourth last := by
  have hlen := le_length_digits n
  let rest₁ := (digits n).take ((digits n).length - 12)
  let rest₂ := rest₁.take (rest₁.length - 3)
  let rest₃ := rest₂.take (rest₂.length - 3)
  refine ⟨rest₃.take (rest₃.length - 4), rest₃.drop (rest₃.length - 4), rest₂.drop (rest₂.length - 3),
    rest₁.drop (rest₁.length - 3), (digits n).drop ((digits n).length - 12), ?_, ?_, ?_, ?_, ?_, ?_⟩
  · simp only [rest₁, rest₂, rest₃, ← List.append_assoc, List.take_append_drop]
  · simp only [rest₁, rest₂, rest₃, List.length_drop, List.length_take]
    omega
  · simp only [rest₁, rest₂, List.length_drop, List.length_take]
    omega
  · simp only [rest₁, List.length_drop, List.length_take]
    omega
  · rw [List.length_drop]
    omega
  · simp only [← List.append_assoc]
    rfl

/-- An identifier is longer than its digits. -/
theorem lt_length_text (n : Nat) : 30 < (text n).length := by
  obtain ⟨first, second, third, fourth, last, h⟩ := exists_spelled n
  have hlen := le_length_digits n
  rw [h.digits] at hlen
  rw [h.text, String.length_ofList]
  simp only [List.length_append, List.length_cons] at hlen ⊢
  omega

theorem notMem_text {c : Char} (hhex : Text.hexValue? c = none) (hdash : c ≠ '-') (n : Nat) :
    c ∉ (text n).toList := by
  obtain ⟨first, second, third, fourth, last, h⟩ := exists_spelled n
  have hdigits := Text.notMem_of_ofHex? hhex (ofHex?_digits n)
  have hfour : c ≠ '4' := by rintro rfl; cases hhex
  have height : c ≠ '8' := by rintro rfl; cases hhex
  rw [h.digits] at hdigits
  rw [h.text, String.toList_ofList]
  simp only [List.mem_append, List.mem_cons, not_or] at hdigits ⊢
  exact ⟨hdigits.1, ⟨hdash, hdigits.2.1⟩, ⟨hdash, hfour, hdigits.2.2.1⟩, ⟨hdash, height, hdigits.2.2.2.1⟩,
    hdash, hdigits.2.2.2.2⟩

theorem text_injective : Function.Injective text := by
  intro n m h
  obtain ⟨first, second, third, fourth, last, hn⟩ := exists_spelled n
  obtain ⟨first', second', third', fourth', last', hm⟩ := exists_spelled m
  rw [hn.text, hm.text] at h
  obtain ⟨hfirst, h⟩ := List.append_inj' (String.ofList_injective h) (by
    simp [hn.length_second, hn.length_third, hn.length_fourth, hn.length_last, hm.length_second,
      hm.length_third, hm.length_fourth, hm.length_last])
  obtain ⟨hsecond, h⟩ := List.append_inj h (by simp [hn.length_second, hm.length_second])
  obtain ⟨hthird, h⟩ := List.append_inj h (by simp [hn.length_third, hm.length_third])
  obtain ⟨hfourth, hlast⟩ := List.append_inj h (by simp [hn.length_fourth, hm.length_fourth])
  cases hfirst
  cases hsecond
  cases hthird
  cases hfourth
  cases hlast
  have hdigits := ofHex?_digits n
  rw [hn.digits, ← hm.digits, ofHex?_digits m] at hdigits
  exact (Option.some.inj hdigits).symm

end IdSupply

end Segmentation
