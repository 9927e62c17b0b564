import Mathlib.Data.List.Basic
import Mathlib.Data.List.TakeWhile
import Segmentation.Text.Blank
import Segmentation.Text.Case
import Segmentation.Text.Search

/-!
# Pieces, blanks and small letters of a text

* `forall_mem_of_all`: how a statement about the members of a list of characters is decided.
* `Text.splitOn_append`, `Text.splitOn_of_notMem`, `Text.splitOn_append_cons`: the pieces of text between separators.
* `Text.split_of_notMem`: a text without the separator is in one piece.
* `Text.split_ne_nil`, `Text.notMem_of_mem_split`: there is at least one piece, and none holds the separator.
* `Text.split_join_cons`, `Text.split_join`: pieces that are joined are split again.
* `Text.trimList_eq_nil`: nothing is left of blanks.
* `Text.trimList_eq_self`: text that neither starts nor ends with a blank stays as it is.
* `Text.exists_trimList_cons`: a first character that is no blank stays in front.
* `Text.trimList_cons`, `Text.mem_of_mem_trimList`: a first blank does not matter, and nothing is added.
* `Text.isTrimmed_trim`, `Text.trim_eq_self`: trimmed text has no blank at either end, and such text stays as it is.
* `Text.isBlank_shiftChar`: the table of capital letters neither moves a blank nor moves a letter to one.
* `Text.isBlank_lowerChar`: so the small form of a character is made of blanks exactly if the character is a blank.
* `Text.lower_eq_empty`: only the empty text has an empty small form.
* `Text.isTrimmed_lower`: the small form of a text has blanks at its ends exactly if the text has.
-/

namespace Segmentation

/-- What is decided for each character of a list holds of them; to decide the statement about the members as it
stands would try all characters there are. -/
theorem forall_mem_of_all {p : Char → Prop} [DecidablePred p] {cs : List Char} (h : cs.all (p ·) = true) :
    ∀ x ∈ cs, p x :=
  fun x hx => of_decide_eq_true (List.all_eq_true.1 h x hx)

end Segmentation

/-! ## Pieces of text -/

namespace Segmentation.Text

variable {c : Char} {cs ds : List Char}

/-- What holds no separator goes in front of the first piece. -/
theorem splitOn_append {piece : List Char} {pieces : List (List Char)} (h : c ∉ cs)
    (hds : splitOn c ds = piece :: pieces) : splitOn c (cs ++ ds) = (cs ++ piece) :: pieces := by
  induction cs with
  | nil => exact hds
  | cons x cs ih =>
    rw [List.mem_cons, not_or] at h
    rw [List.cons_append, splitOn, if_neg (Ne.symm h.1), ih h.2]
    rfl

theorem splitOn_of_notMem (h : c ∉ cs) : splitOn c cs = [cs] := by
  have hnil : splitOn c (cs ++ []) = [cs ++ []] := splitOn_append h rfl
  rwa [List.append_nil] at hnil

/-- The first piece ends at the first separator. -/
theorem splitOn_append_cons (h : c ∉ cs) : splitOn c (cs ++ c :: ds) = cs :: splitOn c ds := by
  have hseparator : splitOn c (c :: ds) = [] :: splitOn c ds := if_pos rfl
  rw [splitOn_append h hseparator, List.append_nil]

theorem split_of_notMem {s : String} (h : c ∉ s.toList) : split s c = [s] := by
  rw [split, splitOn_of_notMem h, List.map_singleton, String.ofList_toList]

theorem splitOn_ne_nil (c : Char) (cs : List Char) : splitOn c cs ≠ [] := by
  cases cs with
  | nil => exact List.cons_ne_nil _ _
  | cons x cs =>
    rw [splitOn]
    split
    · exact List.cons_ne_nil _ _
    · split <;> exact List.cons_ne_nil _ _

theorem split_ne_nil (s : String) (c : Char) : split s c ≠ [] := by
  simpa [split] using splitOn_ne_nil c s.toList

theorem notMem_of_mem_splitOn : ∀ piece ∈ splitOn c cs, c ∉ piece := by
  induction cs with
  | nil => simp [splitOn]
  | cons x cs ih =>
    rw [splitOn]
    split
    · exact List.forall_mem_cons.2 ⟨List.not_mem_nil, ih⟩
    · rename_i hx
      split
      · rename_i heq
        rw [heq, List.forall_mem_cons] at ih
        refine List.forall_mem_cons.2 ⟨fun hc => ?_, ih.2⟩
        exact (List.mem_cons.1 hc).elim (fun h => hx h.symm) ih.1
      · rename_i heq
        exact absurd heq (splitOn_ne_nil c cs)

theorem notMem_of_mem_split {s : String} : ∀ part ∈ split s c, c ∉ part.toList := by
  intro part hpart
  obtain ⟨piece, hpiece, rfl⟩ := List.mem_map.1 hpart
  rw [String.toList_ofList]
  exact notMem_of_mem_splitOn piece hpiece

/-- Pieces without the separator are those of the joined text, where what joins them besides the separator stands in
front of all but the first. -/
theorem split_join_cons {joiner part : String} {after : List Char} {parts : List String}
    (hjoiner : joiner.toList = c :: after) (hafter : c ∉ after) (hparts : ∀ p ∈ part :: parts, c ∉ p.toList) :
    split (join joiner (part :: parts)) c = part :: parts.map (String.ofList after ++ ·) := by
  induction parts generalizing part with
  | nil =>
    rw [join, String.intercalate_singleton, split_of_notMem (hparts part List.mem_cons_self)]
    rfl
  | cons next parts ih =>
    rw [List.forall_mem_cons] at hparts
    have hrest := ih hparts.2
    -- the characters of the rest are split, not its text, for what joins it to the part goes in front of them
    obtain ⟨piece, pieces, hsplit⟩ :=
      List.exists_cons_of_ne_nil (splitOn_ne_nil c (join joiner (next :: parts)).toList)
    rw [split, hsplit, List.map_cons] at hrest
    obtain ⟨hpiece, hpieces⟩ := List.cons_eq_cons.1 hrest
    have hchars : (join joiner (part :: next :: parts)).toList =
        part.toList ++ c :: (after ++ (join joiner (next :: parts)).toList) := by
      rw [join, String.intercalate_cons_cons, String.toList_append, String.toList_append, hjoiner, List.append_assoc,
        List.cons_append]
      rfl
    rw [split, hchars, splitOn_append_cons hparts.1, splitOn_append hafter hsplit, List.map_cons, List.map_cons,
      List.map_cons, hpieces, String.ofList_append, hpiece, String.ofList_toList]

/-- Pieces without the separator are those between the separators of the joined text. -/
theorem split_join {separator : String} (hseparator : separator.toList = [c]) {parts : List String}
    (hne : parts ≠ []) (hparts : ∀ part ∈ parts, c ∉ part.toList) : split (join separator parts) c = parts := by
  obtain ⟨part, parts, rfl⟩ := List.exists_cons_of_ne_nil hne
  rw [split_join_cons hseparator List.not_mem_nil hparts]
  simp

end Segmentation.Text

/-! ## Trimming -/

namespace Segmentation.Text

variable {p : Char → Bool} {cs : List Char}

theorem trimList_eq_nil (hcs : ∀ c ∈ cs, p c = true) : trimList p cs = [] := by
  rw [trimList, List.dropWhile_eq_nil_iff.2 hcs]
  rfl

theorem dropWhile_eq_self (hfirst : ∀ c ∈ cs.head?, p c = false) : cs.dropWhile p = cs := by
  cases cs with
  | nil => rfl
  | cons c cs => simp [hfirst c rfl]

theorem trimList_eq_self (hfirst : ∀ c ∈ cs.head?, p c = false) (hlast : ∀ c ∈ cs.getLast?, p c = false) :
    trimList p cs = cs := by
  rw [trimList, dropWhile_eq_self hfirst, dropWhile_eq_self (by rwa [List.head?_reverse]), List.reverse_reverse]

theorem exists_trimList_cons {c : Char} (hc : p c = false) (cs : List Char) :
    ∃ rest, trimList p (c :: cs) = c :: rest := by
  have hfirst : (c :: cs).dropWhile p = c :: cs := by simp [hc]
  have hlast : [c].dropWhile p = [c] := by simp [hc]
  rw [trimList, hfirst, List.reverse_cons, List.dropWhile_append, hlast]
  split_ifs
  · exact ⟨[], rfl⟩
  · exact ⟨_, by rw [List.reverse_append]; rfl⟩

theorem trimList_cons {c : Char} (hc : p c = true) (cs : List Char) : trimList p (c :: cs) = trimList p cs := by
  rw [trimList, List.dropWhile_cons_of_pos hc]
  rfl

theorem mem_of_mem_trimList {c : Char} (h : c ∈ trimList p cs) : c ∈ cs := by
  have hinner := (List.dropWhile_sublist p).subset (List.mem_reverse.1 h)
  exact (List.dropWhile_sublist p).subset (List.mem_reverse.1 hinner)

theorem head?_trimList : ∀ c ∈ (trimList p cs).head?, p c = false := by
  cases hdrop : cs.dropWhile p with
  | nil =>
    have hnil : trimList p cs = [] := by rw [trimList, hdrop]; rfl
    simp [hnil]
  | cons d rest =>
    have hd : p d = false := by
      have hfirst := List.head?_dropWhile_not p cs
      simpa [hdrop] using hfirst
    have hkept : (d :: rest).dropWhile p = d :: rest := by simp [hd]
    have htrim : trimList p cs = trimList p (d :: rest) := by rw [trimList, trimList, hdrop, hkept]
    obtain ⟨inner, hinner⟩ := exists_trimList_cons hd rest
    simp [htrim, hinner, hd]

theorem getLast?_trimList : ∀ c ∈ (trimList p cs).getLast?, p c = false := by
  rw [trimList, List.getLast?_reverse]
  intro c hc
  have hfirst := List.head?_dropWhile_not p (cs.dropWhile p).reverse
  rw [Option.mem_def.1 hc] at hfirst
  exact hfirst

/-- No blank stands at either end of the text. -/
def IsTrimmed (s : String) : Prop :=
  (∀ c ∈ s.toList.head?, isBlank c = false) ∧ ∀ c ∈ s.toList.getLast?, isBlank c = false

theorem isTrimmed_trim (s : String) : IsTrimmed (trim s) := by
  rw [IsTrimmed, trim, String.toList_ofList]
  exact ⟨head?_trimList, getLast?_trimList⟩

theorem trim_eq_self {s : String} (h : IsTrimmed s) : trim s = s := by
  rw [trim, trimList_eq_self h.1 h.2, String.ofList_toList]

end Segmentation.Text

/-! ## Small letters and blanks -/

namespace Segmentation.Text

/-- The blanks as ranges of code points. -/
def blankRanges : List (Nat × Nat) :=
  [(9, 13), (0x1c, 0x20), (0x85, 0x85), (0xa0, 0xa0), (0x1680, 0x1680), (0x2000, 0x200a), (0x2028, 0x2029),
    (0x202f, 0x202f), (0x205f, 0x205f), (0x3000, 0x3000)]

theorem isBlank_iff {c : Char} : isBlank c = true ↔ ∃ b ∈ blankRanges, b.1 ≤ c.toNat ∧ c.toNat ≤ b.2 := by
  simp only [isBlank, isSpace, blankRanges, Bool.or_eq_true, Bool.and_eq_true, decide_eq_true_iff,
    List.exists_mem_cons_iff, List.not_mem_nil, false_and, exists_false, or_false]
  omega

/-- No range of the table meets the blanks, neither before it is moved nor afterwards. -/
theorem lowerShifts_apart_blankRanges : ∀ r ∈ lowerShifts.toList, ∀ b ∈ blankRanges,
    (r.last < b.1 ∨ b.2 < r.first) ∧ (r.last + r.shift < b.1 ∨ b.2 < r.first + r.shift) := by
  decide +kernel

theorem ShiftRange.of_shifted? {r : ShiftRange} {n m : Nat} (h : r.shifted? n = some m) :
    r.first ≤ n ∧ n ≤ r.last ∧ m = (n + r.shift).toNat := by
  unfold shifted? at h
  split at h
  · rename_i hrange
    cases h
    exact ⟨hrange.1, hrange.2.1, rfl⟩
  · cases h

/-- A number that is no code point stands for the first character. -/
theorem toNat_ofNat (n : Nat) : (Char.ofNat n).toNat = n ∨ (Char.ofNat n).toNat = 0 := by
  by_cases hvalid : n.isValidChar
  · refine .inl ?_
    rw [Char.ofNat, dif_pos hvalid]
    rfl
  · refine .inr ?_
    rw [Char.ofNat, dif_neg hvalid]
    rfl

theorem isBlank_shiftChar (c : Char) : isBlank (shiftChar lowerShifts c) = isBlank c := by
  unfold shiftChar
  split
  · rename_i n hfound
    obtain ⟨r, hr, hshifted⟩ := List.exists_of_findSome?_eq_some hfound
    obtain ⟨hfirst, hlast, hn⟩ := ShiftRange.of_shifted? hshifted
    have hbefore : isBlank c ≠ true := by
      intro hblank
      obtain ⟨b, hb, hlow, hhigh⟩ := isBlank_iff.1 hblank
      have hapart := (lowerShifts_apart_blankRanges r hr b hb).1
      omega
    have hafter : isBlank (Char.ofNat n) ≠ true := by
      intro hblank
      obtain ⟨b, hb, hlow, hhigh⟩ := isBlank_iff.1 hblank
      have hpos : 0 < b.1 := (by decide : ∀ b ∈ blankRanges, 0 < b.1) b hb
      have hapart := (lowerShifts_apart_blankRanges r hr b hb).2
      have hcode := toNat_ofNat n
      omega
    exact (Bool.eq_false_iff.2 hafter).trans (Bool.eq_false_iff.2 hbefore).symm
  · rfl

theorem isBlank_lowerChar {inWord : Bool} {c d : Char} {after : List Char} (hd : d ∈ lowerChar inWord c after) :
    isBlank d = isBlank c := by
  unfold lowerChar at hd
  split_ifs at hd with hsigma hend hdot
  · obtain rfl := List.mem_singleton.1 hd
    rw [hsigma]
    rfl
  · obtain rfl := List.mem_singleton.1 hd
    rw [hsigma]
    rfl
  · rw [hdot]
    have hcases : d = 'i' ∨ d = '\u0307' := by simpa using hd
    rcases hcases with rfl | rfl <;> rfl
  · obtain rfl := List.mem_singleton.1 hd
    exact isBlank_shiftChar c

theorem lowerChar_ne_nil (inWord : Bool) (c : Char) (after : List Char) : lowerChar inWord c after ≠ [] := by
  unfold lowerChar
  split_ifs <;> exact List.cons_ne_nil _ _

theorem lowerFrom_eq_nil {inWord : Bool} {cs : List Char} : lowerFrom inWord cs = [] ↔ cs = [] := by
  cases cs with
  | nil => exact iff_of_true rfl rfl
  | cons c cs =>
    refine iff_of_false (fun h => ?_) (List.cons_ne_nil _ _)
    exact lowerChar_ne_nil _ _ _ (List.append_eq_nil_iff.1 h).1

/-- The first character of the small form is a blank if the first character of the text is. -/
theorem head?_lowerFrom (inWord : Bool) (cs : List Char) :
    (lowerFrom inWord cs).head?.map isBlank = cs.head?.map isBlank := by
  cases cs with
  | nil => rfl
  | cons c cs =>
    rw [lowerFrom, List.head?_append_of_ne_nil _ (lowerChar_ne_nil _ _ _),
      List.head?_eq_some_head (lowerChar_ne_nil _ _ _)]
    exact congrArg some (isBlank_lowerChar (List.head_mem _))

theorem getLast?_lowerFrom (inWord : Bool) (cs : List Char) :
    (lowerFrom inWord cs).getLast?.map isBlank = cs.getLast?.map isBlank := by
  induction cs generalizing inWord with
  | nil => rfl
  | cons c cs ih =>
    rw [lowerFrom]
    cases cs with
    | nil =>
      rw [lowerFrom, List.append_nil, List.getLast?_eq_some_getLast (lowerChar_ne_nil _ _ _)]
      exact congrArg some (isBlank_lowerChar (List.getLast_mem _))
    | cons d cs =>
      have hne : ∀ w, lowerFrom w (d :: cs) ≠ [] := fun w h => List.cons_ne_nil _ _ (lowerFrom_eq_nil.1 h)
      rw [List.getLast?_append_of_ne_nil _ (hne _), ih, List.getLast?_cons_cons]

theorem lower_eq_empty {s : String} : lower s = "" ↔ s = "" := by
  rw [lower, String.ofList_eq_empty_iff, lowerFrom_eq_nil, String.toList_eq_nil_iff]

theorem isTrimmed_lower {s : String} : IsTrimmed (lower s) ↔ IsTrimmed s := by
  have hends : ∀ o : Option Char, (∀ c ∈ o, isBlank c = false) ↔ ∀ b ∈ o.map isBlank, b = false := by
    intro o
    simp
  rw [IsTrimmed, IsTrimmed, lower, String.toList_ofList, hends, hends, head?_lowerFrom, getLast?_lowerFrom, ← hends,
    ← hends]

end Segmentation.Text
