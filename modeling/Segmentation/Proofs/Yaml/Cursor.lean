import Segmentation.Proofs.Text
import Segmentation.Yaml.Cursor

/-!
# Moving in a YAML text

* `IsOrdinary`, `Cursor.past`, `Cursor.nextLine`: characters of one column each, and where the cursor stands
  behind them or at the start of a further line.
* `StartsWord`, `StartsLine`: what a word, or a line of a written document, starts with.
* `Scan.takeWhile_run`, `Scan.lineBreak_run`, …: the steps of reading as equations.
-/

namespace Segmentation.Yaml

/-- A character that takes one column of its line. -/
def IsOrdinary (c : Char) : Prop :=
  isBreak c = false ∧ c ≠ '\ufeff'

instance (c : Char) : Decidable (IsOrdinary c) :=
  inferInstanceAs (Decidable (_ ∧ _))

namespace Cursor

/-- The cursor behind `n` ordinary characters, with `rest` before it. -/
def past (c : Cursor) (n : Nat) (rest : List Char) : Cursor :=
  ⟨rest, c.line, c.column + n, c.index + n⟩

/-- The cursor on the next line, behind `n` blanks. -/
def nextLine (c : Cursor) (n : Nat) (rest : List Char) : Cursor :=
  ⟨rest, c.line + 1, n, c.index + 1 + n⟩

variable {c : Cursor} {x : Char} {cs rest : List Char}

@[simp] theorem past_rest (n : Nat) : (c.past n rest).rest = rest := rfl
@[simp] theorem past_line (n : Nat) : (c.past n rest).line = c.line := rfl
@[simp] theorem past_column (n : Nat) : (c.past n rest).column = c.column + n := rfl
@[simp] theorem past_index (n : Nat) : (c.past n rest).index = c.index + n := rfl
@[simp] theorem nextLine_rest (n : Nat) : (c.nextLine n rest).rest = rest := rfl
@[simp] theorem nextLine_line (n : Nat) : (c.nextLine n rest).line = c.line + 1 := rfl
@[simp] theorem nextLine_column (n : Nat) : (c.nextLine n rest).column = n := rfl

theorem past_zero : c.past 0 c.rest = c := rfl

theorem past_past (m n : Nat) (rest' : List Char) :
    (c.past m rest).past n rest' = c.past (m + n) rest' := by
  simp [past, Nat.add_assoc]

theorem nextLine_past (m n : Nat) (rest' : List Char) :
    (c.nextLine m rest).past n rest' = c.nextLine (m + n) rest' := by
  simp [past, nextLine, Nat.add_assoc]

theorem advance_ordinary (hrest : c.rest = x :: rest) (hx : IsOrdinary x) :
    c.advance = c.past 1 rest := by
  obtain ⟨cs, line, column, index⟩ := c
  obtain rfl : cs = x :: rest := hrest
  simp [advance, past, hx.1, hx.2]

theorem advance_newline (hrest : c.rest = '\n' :: rest) : c.advance = c.nextLine 0 rest := by
  obtain ⟨cs, line, column, index⟩ := c
  obtain rfl : cs = '\n' :: rest := hrest
  simp [advance, nextLine, isBreak]

theorem advanceBy_succ (n : Nat) (c : Cursor) : c.advanceBy (n + 1) = c.advance.advanceBy n := by
  induction n with
  | zero => rfl
  | succ n ih => exact congrArg advance ih

theorem advanceBy_ordinary (hrest : c.rest = cs ++ rest) (hcs : ∀ x ∈ cs, IsOrdinary x) :
    c.advanceBy cs.length = c.past cs.length rest := by
  induction cs generalizing c with
  | nil =>
    rw [List.nil_append] at hrest
    rw [← hrest]
    rfl
  | cons x cs ih =>
    rw [List.forall_mem_cons] at hcs
    rw [List.length_cons, advanceBy_succ, advance_ordinary hrest hcs.1, ih rfl hcs.2, past_past,
      Nat.add_comm]

end Cursor

/-! ## What stands at the start of a word or a line -/

/-- The text does not start with a blank, a break or a comment. -/
def StartsWord (cs : List Char) : Prop :=
  ∀ x ∈ cs.head?, x ≠ ' ' ∧ x ≠ '#' ∧ isBreak x = false

/-- A line of a written document starts with a letter, or with a dash as a word of its own. -/
def StartsLine (cs : List Char) : Prop :=
  ∀ x ∈ cs.head?, x.isAlpha = true ∨ x = '-' ∧ endsWord cs.tail.head? = true

theorem ne_of_class {p : Char → Bool} {x y : Char} (hx : p x = true) (hy : p y = false) : x ≠ y := by
  rintro rfl
  simp [hx] at hy

theorem isBreak_of_isAlpha {x : Char} (h : x.isAlpha = true) : isBreak x = false := by
  simp [isBreak, ne_of_class h]

theorem StartsLine.startsWord {cs : List Char} (h : StartsLine cs) : StartsWord cs := by
  intro x hx
  rcases h x hx with halpha | ⟨rfl, -⟩
  · exact ⟨ne_of_class halpha rfl, ne_of_class halpha rfl, isBreak_of_isAlpha halpha⟩
  · decide

/-! ## Steps of reading -/

namespace Scan

variable {α β : Type} {c c' : Cursor} {cs rest : List Char} {p : Char → Bool}

/-- What follows a step goes on from where the step ended. -/
theorem bind_run {x : Scan α} {f : α → Scan β} {a : α} (h : x.run c = .ok (a, c')) :
    (x >>= f).run c = (f a).run c' := by
  rw [StateT.run_bind, h]
  rfl

theorem get_run : (get : Scan Cursor).run c = .ok (c, c) := rfl

theorem guard_run : (Scan.guard true).run c = .ok ((), c) := rfl

theorem bound_run : bound.run c = .ok (c.rest.length + 1, c) := rfl

theorem skip_advance (n : Nat) : (skip n).run c = .ok ((), c.advanceBy n) := rfl

theorem skip_run (hrest : c.rest = cs ++ rest) (hcs : ∀ x ∈ cs, IsOrdinary x) :
    (skip cs.length).run c = .ok ((), c.past cs.length rest) := by
  rw [← Cursor.advanceBy_ordinary hrest hcs]
  rfl

theorem skip_one_run {x : Char} (hrest : c.rest = x :: rest) (hx : IsOrdinary x) :
    (skip 1).run c = .ok ((), c.past 1 rest) :=
  skip_run (show c.rest = [x] ++ rest from hrest) (by simpa using hx)

theorem peek_run : peek.run c = .ok (c.rest.head?, c) := by
  rw [List.head?_eq_getElem?]
  rfl

theorem takeWhile_run (hrest : c.rest = cs ++ rest) (hcs : ∀ x ∈ cs, p x = true ∧ IsOrdinary x)
    (hstop : ∀ x ∈ rest.head?, p x = false) :
    (Scan.takeWhile p).run c = .ok (cs, c.past cs.length rest) := by
  have htake : c.rest.takeWhile p = cs := by
    rw [hrest, List.takeWhile_append_of_pos fun x hx => (hcs x hx).1]
    cases rest with
    | nil => simp
    | cons x rest => simp [hstop x rfl]
  unfold Scan.takeWhile
  rw [bind_run get_run, htake, bind_run (skip_run hrest fun x hx => (hcs x hx).2)]
  rfl

/-- Blanks are taken up to the start of a word. -/
theorem blanks_run (n : Nat) (hrest : c.rest = List.replicate n ' ' ++ rest)
    (hstop : ∀ x ∈ rest.head?, x ≠ ' ') :
    (Scan.takeWhile (· = ' ')).run c = .ok (List.replicate n ' ', c.past n rest) := by
  have h := takeWhile_run (p := (· = ' ')) hrest ?_ ?_
  · rwa [List.length_replicate] at h
  · intro x hx
    rw [(List.mem_replicate.1 hx).2]
    decide
  · intro x hx
    simpa using hstop x hx

theorem lineBreak_run (hrest : c.rest = '\n' :: rest) :
    lineBreak.run c = .ok (['\n'], c.nextLine 0 rest) := by
  unfold lineBreak
  rw [bind_run get_run, hrest, ← Cursor.advance_newline hrest]
  rfl

theorem lineBreak_run_none (hstop : ∀ x ∈ c.rest.head?, isBreak x = false) :
    lineBreak.run c = .ok ([], c) := by
  unfold lineBreak
  rw [bind_run get_run]
  split
  · rename_i h
    have := hstop '\r' (by rw [h]; rfl)
    simp [isBreak] at this
  · rename_i x rest _ h
    have := hstop x (by rw [h]; rfl)
    rw [this]
    rfl
  · rfl

/-- No line of a written document is a mark between documents. -/
theorem atDocumentMark_run (h : c.rest.head? = some ' ' ∨ StartsLine c.rest) :
    atDocumentMark.run c = .ok (false, c) := by
  unfold atDocumentMark
  rw [bind_run get_run]
  split
  · rename_i x y z rest hrest
    rw [hrest, List.head?_cons] at h
    have hmark : (decide (x = y) && decide (y = z) && (decide (x = '-') || decide (x = '.')) &&
        endsWord rest.head?) = false := by
      rcases h with hblank | h
      · simp [Option.some.inj hblank]
      rcases h x rfl with halpha | ⟨rfl, hend⟩
      · simp [ne_of_class halpha (y := '-') rfl, ne_of_class halpha (y := '.') rfl]
      · have hy : '-' ≠ y := by
          rintro rfl
          cases hend
        simp [hy]
    rw [hmark]
    rfl
  · rfl

end Scan

end Segmentation.Yaml
