import Mathlib.Algebra.Group.Nat.Defs
import Mathlib.Tactic.SplitIfs
import Segmentation.Proofs.Identifier
import Segmentation.Proofs.Yaml.Cursor
import Segmentation.Proofs.Yaml.Printer
import Segmentation.Yaml.Token.Quoted

/-!
# Reading written text between quotes

* `isPrintable_ordinary`: a character that is written as it is may stand in a document and takes one column.
* `Quoted.textFrom_encode`: text is read back character by character.
* `Quoted.token_run`: text between quotes is read back.
-/

namespace Segmentation.Yaml

/-! ## Characters -/

theorem not_inRange_of_isPrintable {c : Char} (h : Text.isPrintable c = true) {r : Nat × Nat}
    (hr : r ∈ Text.unprintableRanges.toList) : ¬(r.1 ≤ c.toNat ∧ c.toNat ≤ r.2) := by
  intro hc
  rw [Text.isPrintable, Bool.not_eq_true', Text.inRanges, List.any_eq_false] at h
  exact h r hr (by simpa using hc)

/-- A character that is written as it is may stand in a document and takes one column. -/
theorem isPrintable_ordinary {c : Char} (h : Text.isPrintable c = true) :
    isAllowed c = true ∧ IsOrdinary c := by
  have hcontrol := not_inRange_of_isPrintable h (r := (0x0, 0x1f)) (by decide +kernel)
  have hdelete := not_inRange_of_isPrintable h (r := (0x7f, 0xa0)) (by decide +kernel)
  have hseparator := not_inRange_of_isPrintable h (r := (0x2028, 0x202f)) (by decide +kernel)
  have hmark := not_inRange_of_isPrintable h (r := (0xfefd, 0xff00)) (by decide +kernel)
  have hlast := not_inRange_of_isPrintable h (r := (0xfffe, 0xffff)) (by decide +kernel)
  have hne : ∀ y : Char, c.toNat ≠ y.toNat → c ≠ y := fun y hy hcy => hy (congrArg _ hcy)
  have hbreak : isBreak c = false := by
    simp only [isBreak, Bool.or_eq_false_iff, decide_eq_false_iff_not]
    refine ⟨⟨⟨⟨hne _ ?_, hne _ ?_⟩, hne _ ?_⟩, hne _ ?_⟩, hne _ ?_⟩ <;> intro hc <;>
      simp [hc] at hcontrol hdelete hseparator
  have hbom : c ≠ '\ufeff' := hne _ fun hc => by simp [hc] at hmark
  refine ⟨?_, hbreak, hbom⟩
  simp only [isAllowed, Bool.or_eq_true, Bool.and_eq_true, decide_eq_true_eq]
  omega

theorem isOrdinary_digitChar {n : Nat} (hn : n < 16) : IsOrdinary n.digitChar := by
  have h : ∀ m < 16, IsOrdinary (Nat.digitChar m) := by decide
  exact h n hn

namespace Quoted

open Scan

variable {c : Cursor} {rest : List Char}

/-! ## Escapes -/

theorem length_hexDigits (width n : Nat) : (Text.Quoted.hexDigits width n).length = width := by
  induction width generalizing n with
  | zero => rfl
  | succ width ih => rw [Text.Quoted.hexDigits, List.length_append, ih, List.length_singleton]

/-- What holds of each hexadecimal digit holds of those that a number is written with. -/
theorem forall_mem_hexDigits {p : Char → Prop} (h : ∀ m < 16, p (Nat.digitChar m)) (width n : Nat) :
    ∀ x ∈ Text.Quoted.hexDigits width n, p x := by
  induction width generalizing n with
  | zero => nofun
  | succ width ih =>
    intro x hx
    rcases List.mem_append.1 hx with hx | hx
    · exact ih _ x hx
    · rw [List.mem_singleton.1 hx]
      exact h _ (Nat.mod_lt _ (by decide))

theorem ofHex?_hexDigits {width n : Nat} (hn : n < 16 ^ width) :
    Text.ofHex? 0 (Text.Quoted.hexDigits width n) = some n := by
  induction width generalizing n with
  | zero =>
    obtain rfl : n = 0 := by simpa using hn
    rfl
  | succ width ih =>
    have hquotient : n / 16 < 16 ^ width := Nat.div_lt_of_lt_mul (by rwa [← Nat.pow_succ'])
    rw [Text.Quoted.hexDigits, Text.ofHex?_append, ih hquotient, Option.bind_some, Text.ofHex?,
      Text.hexValue?_digitChar (Nat.mod_lt _ (by decide)), Option.bind_some, Text.ofHex?,
      Nat.div_add_mod']

theorem hexNumber_run {width n : Nat} (hn : n < 16 ^ width)
    (hrest : c.rest = Text.Quoted.hexDigits width n ++ rest) :
    (hexNumber width).run c = .ok (n, c.past width rest) := by
  have htake : c.rest.take width = Text.Quoted.hexDigits width n := by
    rw [hrest, List.take_left' (length_hexDigits width n)]
  have hskip := skip_run hrest (forall_mem_hexDigits (fun _ => isOrdinary_digitChar) width n)
  rw [length_hexDigits] at hskip
  unfold hexNumber
  rw [bind_run get_run]
  dsimp only
  rw [htake, length_hexDigits, decide_eq_true rfl, bind_run guard_run, ofHex?_hexDigits hn]
  dsimp only
  rw [bind_run hskip]
  rfl

/-- A character is read back from its number. -/
theorem codedChar_run {width : Nat} {x : Char} (hx : x.toNat < 16 ^ width)
    (hrest : c.rest = Text.Quoted.hexDigits width x.toNat ++ rest) :
    (codedChar width).run c = .ok (x, c.past width rest) := by
  have hvalid : x.toNat < 0xd800 ∨ 0xdfff < x.toNat ∧ x.toNat < 0x110000 := x.valid
  unfold codedChar
  rw [bind_run (hexNumber_run hx hrest), if_neg (by omega)]
  unfold charOfCode
  rw [if_pos (by omega), if_neg (by omega), Char.ofNat_toNat]
  rfl

/-- An escape of one character: what is written for it starts with a backslash. -/
theorem escape_letter {e x : Char} (he : escaped? e = some x) (hord : IsOrdinary e)
    (hrest : c.rest = e :: rest) : escape.run c = .ok ([x], c.past 1 rest) := by
  unfold escape
  rw [bind_run peek_run, hrest]
  dsimp only [List.head?_cons]
  rw [he]
  dsimp only
  rw [bind_run (skip_one_run hrest hord)]
  rfl

theorem escape_number {e x : Char} {width : Nat} (he : escaped? e = none)
    (hwidth : codeWidth? e = some width) (hord : IsOrdinary e) (hx : x.toNat < 16 ^ width)
    (hrest : c.rest = e :: (Text.Quoted.hexDigits width x.toNat ++ rest)) :
    escape.run c = .ok ([x], c.past (width + 1) rest) := by
  unfold escape
  rw [bind_run peek_run, hrest]
  dsimp only [List.head?_cons]
  rw [he, hwidth]
  dsimp only
  rw [bind_run (skip_one_run hrest hord), bind_run (codedChar_run hx rfl), Cursor.past_past,
    Nat.add_comm 1]
  rfl

/-- What is written for a character is the character itself, or an escape that is read back as it. -/
theorem encodeChar_cases (x : Char) :
    (encodeChar x = [x] ∧ Text.isPrintable x = true ∧ x ≠ '"' ∧ x ≠ '\\' ∧ isBlank x = decide (x = ' ')) ∨
      ∃ e, encodeChar x = '\\' :: e ∧ ∀ (c : Cursor) (rest : List Char), c.rest = e ++ rest →
        escape.run c = .ok ([x], c.past e.length rest) := by
  unfold encodeChar
  split_ifs with hquote hn ht hshown
  · right
    refine ⟨_, rfl, fun c rest hrest => ?_⟩
    rcases (by simpa using hquote : x = '"' ∨ x = '\\') with rfl | rfl
    · exact escape_letter (by decide) (by decide) hrest
    · exact escape_letter (by decide) (by decide) hrest
  · right
    subst hn
    exact ⟨_, rfl, fun c rest hrest => escape_letter (by decide) (by decide) hrest⟩
  · right
    subst ht
    exact ⟨_, rfl, fun c rest hrest => escape_letter (by decide) (by decide) hrest⟩
  · left
    rw [Bool.or_eq_true, not_or] at hquote
    exact ⟨rfl, hshown, by simpa using hquote.1, by simpa using hquote.2, by simp [isBlank, ht]⟩
  · right
    unfold Text.Quoted.escapeCode
    have hvalid : x.toNat < 0xd800 ∨ 0xdfff < x.toNat ∧ x.toNat < 0x110000 := x.valid
    -- whichever width is enough for the number
    split_ifs with htwo hfour
    all_goals
      refine ⟨_, rfl, fun c rest hrest => ?_⟩
      rw [List.length_cons, length_hexDigits]
      exact escape_number (by decide) rfl (by decide) (by omega) hrest

/-! ## Text -/

/-- The character is written as it is and does not end a run of such characters. -/
def isPlain (x : Char) : Bool :=
  decide (encodeChar x = [x]) && !isSpecial x

theorem isOrdinary_of_encodeChar {x : Char} (h : encodeChar x = [x]) : IsOrdinary x := by
  rcases encodeChar_cases x with ⟨-, hshown, -⟩ | ⟨e, he, -⟩
  · exact (isPrintable_ordinary hshown).2
  · obtain ⟨rfl, rfl⟩ := List.cons.inj (he.symm.trans h)
    decide

theorem flatMap_encodeChar {cs : List Char} (h : ∀ x ∈ cs, encodeChar x = [x]) :
    cs.flatMap encodeChar = cs := by
  induction cs with
  | nil => rfl
  | cons x cs ih =>
    rw [List.forall_mem_cons] at h
    rw [List.flatMap_cons, h.1, ih h.2]
    rfl

/-- What ends a run: the closing quote, or the first character that is not plain. -/
theorem isSpecial_head {cs : List Char} (h : ∀ x ∈ cs.head?, isPlain x = false) (t : List Char) :
    ∀ y ∈ (cs.flatMap encodeChar ++ '"' :: t).head?, isSpecial y = true := by
  cases cs with
  | nil => simp [isSpecial]
  | cons x cs =>
    have hx := h x rfl
    intro y hy
    rw [List.flatMap_cons] at hy
    rcases encodeChar_cases x with ⟨hself, -⟩ | ⟨e, he, -⟩
    · rw [hself] at hy
      cases hy
      simpa [isPlain, hself] using hx
    · rw [he] at hy
      cases hy
      decide

/-- Blanks at the start of a text, and what follows them. -/
theorem exists_blanks (cs : List Char) :
    ∃ n ds, cs = List.replicate n ' ' ++ ds ∧ ∀ x ∈ ds.head?, x ≠ ' ' := by
  refine ⟨(cs.takeWhile (· = ' ')).length, cs.dropWhile (· = ' '), ?_, fun x hx => ?_⟩
  · have hall : cs.takeWhile (· = ' ') = List.replicate (cs.takeWhile (· = ' ')).length ' ' :=
      List.eq_replicate_iff.2 ⟨rfl, fun x hx => by simpa using List.mem_takeWhile_imp hx⟩
    rw [← hall, List.takeWhile_append_dropWhile]
  · have := List.head?_dropWhile_not (· = ' ') cs
    rw [hx] at this
    simpa using this

/-- Blanks are taken together, up to a character that is none. -/
theorem gap_run {cs t : List Char} (n : Nat) (hcs : ∀ x ∈ cs.head?, x ≠ ' ')
    (hrest : c.rest = List.replicate n ' ' ++ (cs.flatMap encodeChar ++ '"' :: t)) :
    gap.run c = .ok (List.replicate n ' ', c.past n (cs.flatMap encodeChar ++ '"' :: t)) := by
  have hhead : ∀ y ∈ (cs.flatMap encodeChar ++ '"' :: t).head?, isBlank y = false ∧ isBreak y = false := by
    cases cs with
    | nil => simp [isBlank, isBreak]
    | cons x cs =>
      intro y hy
      rw [List.flatMap_cons] at hy
      rcases encodeChar_cases x with ⟨hself, hshown, -, -, hblank⟩ | ⟨e, he, -⟩
      · rw [hself] at hy
        cases hy
        exact ⟨by simpa [hcs x rfl] using hblank, (isPrintable_ordinary hshown).2.1⟩
      · rw [he] at hy
        cases hy
        decide
  have htake := takeWhile_run (p := isBlank) hrest ?_ fun y hy => (hhead y hy).1
  · rw [List.length_replicate] at htake
    unfold gap
    rw [bind_run htake, bind_run (lineBreak_run_none fun y hy => (hhead y hy).2)]
    rfl
  · intro x hx
    rw [(List.mem_replicate.1 hx).2]
    decide

/-- Reading what ends a run of plain characters: blanks, an escape, or another character that is taken as it is. -/
def part (y : Char) : Scan (List Char) :=
  if isBlank y || isBreak y then gap
  else if y = '\\' then do skip 1; escape
  else do skip 1; pure [y]

/-- A run of plain characters, a part of another kind, and the text behind it. -/
theorem textFrom_part {c₁ c₂ c₃ : Cursor} {run p q : List Char} {y : Char} {n : Nat}
    (htake : (Scan.takeWhile (!isSpecial ·)).run c = .ok (run, c₁)) (hy : c₁.rest.head? = some y)
    (hquote : y ≠ '"') (hpart : (part y).run c₁ = .ok (p, c₂))
    (hmore : (textFrom '"' n).run c₂ = .ok (q, c₃)) :
    (textFrom '"' (n + 1)).run c = .ok (run ++ p ++ q, c₃) := by
  unfold part at hpart
  unfold textFrom
  rw [bind_run htake, bind_run peek_run, hy]
  dsimp only
  rw [if_neg hquote]
  simp only [decide_true, Bool.true_and, decide_eq_true_eq]
  split_ifs at hpart ⊢
  · rw [bind_run hpart, bind_run hmore]
    rfl
  · rw [bind_run (skip_advance 1)] at hpart ⊢
    rw [bind_run hpart, bind_run hmore]
    rfl
  · rw [bind_run (skip_advance 1)] at hpart ⊢
    rw [bind_run hpart, bind_run hmore]
    rfl

/-- The characters `p` are read as one part from what is written for them and a text behind them. -/
def IsPart (p cs : List Char) : Prop :=
  ∀ (c : Cursor) (t : List Char), c.rest = (p ++ cs).flatMap encodeChar ++ '"' :: t →
    ∃ y, c.rest.head? = some y ∧ y ≠ '"' ∧
      (part y).run c = .ok (p, c.past (p.flatMap encodeChar).length (cs.flatMap encodeChar ++ '"' :: t))

theorem isPart_blanks {cs : List Char} {n : Nat} (hn : 0 < n) (hblank : encodeChar ' ' = [' '])
    (hcs : ∀ x ∈ cs.head?, x ≠ ' ') : IsPart (List.replicate n ' ') cs := by
  intro c t hrest
  have hself : (List.replicate n ' ').flatMap encodeChar = List.replicate n ' ' :=
    flatMap_encodeChar fun x hx => by rw [(List.mem_replicate.1 hx).2, hblank]
  rw [List.flatMap_append, hself, List.append_assoc] at hrest
  rw [hself, List.length_replicate]
  refine ⟨' ', ?_, by decide, gap_run n hcs hrest⟩
  obtain ⟨k, rfl⟩ := Nat.exists_eq_succ_of_ne_zero hn.ne'
  rw [hrest]
  rfl

theorem isPart_self {x : Char} {cs : List Char} (hself : encodeChar x = [x]) (hord : IsOrdinary x)
    (hquote : x ≠ '"') (hslash : x ≠ '\\') (hblank : isBlank x = false) : IsPart [x] cs := by
  intro c t hrest
  simp only [List.cons_append, List.nil_append, List.flatMap_cons, hself] at hrest
  refine ⟨x, by rw [hrest]; rfl, hquote, ?_⟩
  simp only [part, hblank, hord.1, Bool.or_self, Bool.false_eq_true, if_false, if_neg hslash,
    List.flatMap_singleton, hself]
  rw [bind_run (skip_one_run hrest hord)]
  rfl

theorem isPart_escape {x : Char} {e cs : List Char} (he : encodeChar x = '\\' :: e)
    (hescape : ∀ (c : Cursor) (rest : List Char), c.rest = e ++ rest →
      escape.run c = .ok ([x], c.past e.length rest)) :
    IsPart [x] cs := by
  intro c t hrest
  simp only [List.cons_append, List.nil_append, List.flatMap_cons, he, List.append_assoc] at hrest
  refine ⟨'\\', by rw [hrest]; rfl, by decide, ?_⟩
  simp only [part, show isBlank '\\' = false from rfl, show isBreak '\\' = false from rfl, Bool.or_self,
    Bool.false_eq_true, if_false, if_true, List.flatMap_singleton, he, List.length_cons]
  rw [bind_run (skip_one_run hrest (by decide)), hescape _ _ rfl, Cursor.past_past, Nat.add_comm 1]

/-- A text that starts with a character that is not plain starts with a part. -/
theorem exists_part {x : Char} (hx : isPlain x = false) (xs : List Char) :
    ∃ p cs, x :: xs = p ++ cs ∧ p ≠ [] ∧ IsPart p cs := by
  rcases encodeChar_cases x with ⟨hself, hshown, hquote, hslash, hblank⟩ | ⟨e, he, hescape⟩
  · by_cases hspace : x = ' '
    · subst hspace
      obtain ⟨n, cs, hcs, hnext⟩ := exists_blanks (' ' :: xs)
      have hn : 0 < n := by
        rcases Nat.eq_zero_or_pos n with rfl | hn
        · rw [List.replicate_zero, List.nil_append] at hcs
          exact absurd rfl (hnext ' ' (hcs ▸ rfl))
        · exact hn
      exact ⟨_, cs, hcs, by simpa using hn.ne', isPart_blanks hn hself hnext⟩
    · have hnone : isBlank x = false := by rw [hblank, decide_eq_false_iff_not]; exact hspace
      exact ⟨[x], xs, rfl, List.cons_ne_nil _ _,
        isPart_self hself (isPrintable_ordinary hshown).2 hquote hslash hnone⟩
  · exact ⟨[x], xs, rfl, List.cons_ne_nil _ _, isPart_escape he hescape⟩

/-- A run of plain characters at the start of a text, and what ends it. -/
theorem exists_run (cs : List Char) :
    ∃ run ys, cs = run ++ ys ∧ (∀ x ∈ run, encodeChar x = [x] ∧ isSpecial x = false) ∧
      ∀ x ∈ ys.head?, isPlain x = false := by
  refine ⟨_, _, (List.takeWhile_append_dropWhile (p := isPlain)).symm, fun x hx => ?_, fun x hx => ?_⟩
  · have hplain := List.mem_takeWhile_imp hx
    simpa [isPlain] using hplain
  · have hnot := List.head?_dropWhile_not isPlain cs
    rwa [hx] at hnot

/-- Written text is read back up to its closing quote. -/
theorem textFrom_encode (n : Nat) {cs t : List Char} (hn : cs.length < n)
    (hrest : c.rest = cs.flatMap encodeChar ++ '"' :: t) :
    (textFrom '"' n).run c = .ok (cs, c.past ((cs.flatMap encodeChar).length + 1) t) := by
  induction n generalizing cs c with
  | zero => cases hn
  | succ n ih =>
    obtain ⟨run, ys, rfl, hrun, hys⟩ := exists_run cs
    have hself := flatMap_encodeChar fun x hx => (hrun x hx).1
    rw [List.flatMap_append, hself, List.append_assoc] at hrest
    have htake := takeWhile_run (p := (!isSpecial ·)) hrest
      (fun x hx => ⟨by simpa using (hrun x hx).2, isOrdinary_of_encodeChar (hrun x hx).1⟩)
      fun y hy => by simpa using isSpecial_head hys t y hy
    rw [List.flatMap_append, hself, List.length_append]
    cases ys with
    | nil =>
      have hskip := skip_one_run (c := c.past run.length ('"' :: t)) rfl (by decide)
      unfold textFrom
      rw [bind_run htake, bind_run peek_run, Cursor.past_rest]
      simp only [List.flatMap_nil, List.nil_append, List.head?_cons, if_true, List.append_nil,
        List.length_nil, Nat.add_zero]
      rw [bind_run hskip, bind_run peek_run, Cursor.past_past]
      rfl
    | cons x xs =>
      obtain ⟨p, zs, hparts, hp, hpart⟩ := exists_part (hys x rfl) xs
      rw [hparts] at htake hn ⊢
      have hshorter : zs.length < n := by
        have hpos := List.length_pos_iff.2 hp
        simp only [List.length_append] at hn
        omega
      obtain ⟨y, hy, hquote, hread⟩ := hpart (c.past run.length ((p ++ zs).flatMap encodeChar ++ '"' :: t)) t rfl
      rw [textFrom_part htake hy hquote hread (ih hshorter rfl), Cursor.past_past, Cursor.past_past,
        List.flatMap_append, List.length_append, List.append_assoc]
      simp only [Nat.add_assoc]

theorem length_le_flatMap_encodeChar (cs : List Char) : cs.length ≤ (cs.flatMap encodeChar).length := by
  induction cs with
  | nil => exact Nat.le_refl 0
  | cons x cs ih =>
    have hx : 1 ≤ (encodeChar x).length := by
      rcases encodeChar_cases x with ⟨hself, -⟩ | ⟨e, he, -⟩
      · simp [hself]
      · simp [he]
    rw [List.flatMap_cons, List.length_append, List.length_cons]
    omega

/-- Text between quotes is read back. -/
theorem token_run {s : String} {t : List Char} (hrest : c.rest = quote s ++ t) :
    (token '"').run c = .ok (.scalar s false, c.past (quote s).length t) := by
  have hwritten : c.rest = '"' :: (s.toList.flatMap encodeChar ++ '"' :: t) := by
    rw [hrest, quote]
    simp
  have hfuel : s.toList.length < (s.toList.flatMap encodeChar ++ '"' :: t).length + 1 := by
    have := length_le_flatMap_encodeChar s.toList
    rw [List.length_append]
    omega
  unfold token
  rw [bind_run (skip_one_run hwritten (by decide)), bind_run bound_run, Cursor.past_rest,
    bind_run (textFrom_encode _ hfuel rfl), Cursor.past_past, String.ofList_toList]
  simp only [quote, List.length_cons, List.length_append, List.length_nil, Nat.add_comm 1]
  rfl

end Quoted

/-! ## Characters of a written text -/

/-- A document may hold what is written for a character. -/
theorem isAllowed_encodeChar (x : Char) : ∀ y ∈ encodeChar x, isAllowed y = true := by
  unfold encodeChar
  split_ifs with hquote hn ht hshown
  · rcases (by simpa using hquote : x = '"' ∨ x = '\\') with rfl | rfl <;>
      exact forall_mem_of_all (by decide)
  · exact forall_mem_of_all (by decide)
  · exact forall_mem_of_all (by decide)
  · simpa using (isPrintable_ordinary hshown).1
  · have hcode : ∀ e width, isAllowed e = true →
        ∀ y ∈ '\\' :: e :: Text.Quoted.hexDigits width x.toNat, isAllowed y = true :=
      fun e width he => List.forall_mem_cons.2 ⟨by decide, List.forall_mem_cons.2
        ⟨he, Quoted.forall_mem_hexDigits (by decide) width x.toNat⟩⟩
    unfold Text.Quoted.escapeCode
    split_ifs
    · exact hcode 'x' 2 (by decide)
    · exact hcode 'u' 4 (by decide)
    · exact hcode 'U' 8 (by decide)

theorem isAllowed_quote (s : String) : ∀ y ∈ quote s, isAllowed y = true := by
  intro y hy
  rcases List.mem_cons.1 hy with rfl | hy
  · decide
  · rcases List.mem_append.1 hy with hy | hy
    · obtain ⟨x, -, hx⟩ := List.mem_flatMap.1 hy
      exact isAllowed_encodeChar x y hx
    · rw [List.mem_singleton.1 hy]
      decide

end Segmentation.Yaml
