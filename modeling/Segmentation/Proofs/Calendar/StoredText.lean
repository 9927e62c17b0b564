import Segmentation.Proofs.Number.Layout
import Segmentation.Schema.Number

/-!
# Stored times

* `Iso.digits?_padded`: a padded number is read back.
* `DateTime.IsToMinute`: the distance from UTC, if there is one, is a number of whole minutes.
* `Stored.dateTimeText?_storedText`: such a time is read as it was written.
-/

namespace Segmentation.Calendar

open Integer Binary64

variable {rest : List Char}

/-! ## Padded numbers -/

namespace Iso

theorem digits?_append {ds : List Char} (hds : AllDigits ds) (acc : Nat) (rest : List Char) :
    digits? ds.length acc (ds ++ rest) = some (Nat.ofDigitChars 10 ds acc, rest) := by
  induction ds generalizing acc with
  | nil => rfl
  | cons d ds ih =>
    rw [allDigits_cons] at hds
    rw [List.length_cons, List.cons_append, digits?, if_pos hds.1, ih hds.2, Nat.ofDigitChars_cons, Nat.mul_comm]
    rfl

theorem length_padded {width n : Nat} (hwidth : 0 < width) (hn : n < 10 ^ width) :
    (padded width n).length = width := by
  have hle := (Nat.length_toDigits_le_iff (b := 10) (by decide) hwidth).2 hn
  rw [padded, length_padLeft]
  exact max_eq_left hle

/-- A number that fits into its width is read back. -/
theorem digits?_padded {width n : Nat} (hwidth : 0 < width) (hn : n < 10 ^ width) (rest : List Char) :
    digits? width 0 (padded width n ++ rest) = some (n, rest) := by
  have hlen : (padLeft width (Nat.toDigits 10 n)).length = width := length_padded hwidth hn
  have h := digits?_append (allDigits_padLeft width n) 0 rest
  rw [ofDigitChars_padLeft, hlen] at h
  exact h

end Iso

/-! ## Parts of a stored time -/

namespace Stored

open Iso (digits?_padded)

theorem date?_textList (d : Date) (rest : List Char) : date? (d.textList ++ rest) = some (d, rest) := by
  obtain ⟨year, month, day, hday⟩ := d
  obtain ⟨-, hyear, -, hmonth, -, hlast⟩ := id hday
  have hmonthDays := daysInMonth_le year month
  have hof : Date.of? year month day = some ⟨year, month, day, hday⟩ := by rw [Date.of?, dif_pos hday]
  unfold date? Date.textList
  simp only [List.append_assoc, List.cons_append]
  rw [digits?_padded (by decide) (by omega)]
  simp only [Option.bind_eq_bind, Option.bind_some, Iso.hyphen?, if_true]
  rw [digits?_padded (by decide) (by omega)]
  simp only [Option.bind_some]
  rw [digits?_padded (by decide) (by omega)]
  simp only [Option.bind_some, hof]
  rfl

/-- What stands behind the seconds does not belong to them. -/
def EndsClock (rest : List Char) : Prop :=
  ∀ c ∈ rest.head?, c.isDigit = false ∧ c ≠ '.' ∧ c ≠ ','

theorem seconds?_text (time : Nat) (hrest : EndsClock rest) :
    seconds? (secondsText time ++ (Calendar.fractionText time ++ rest)) =
      some (time / microsPerSecond % 60 * microsPerSecond + time % microsPerSecond, rest) := by
  have hlt : time / microsPerSecond % 60 < 60 := Nat.mod_lt _ (by decide)
  have hmicros : time % microsPerSecond < 10 ^ 6 := Nat.mod_lt _ (by decide)
  unfold secondsText Calendar.fractionText
  rw [List.cons_append, seconds?, digits?_padded (by decide) (by omega)]
  simp only [Option.bind_eq_bind, Option.bind_some]
  by_cases hzero : time % microsPerSecond = 0
  · rw [if_pos hzero, List.nil_append, hzero]
    cases rest with
    | nil => simp [hlt]
    | cons c cs =>
      obtain ⟨-, hpoint, hcomma⟩ := hrest c rfl
      simp [hlt, hpoint, hcomma]
  · set ds := padded 6 (time % microsPerSecond)
    have hdigits : AllDigits ds := allDigits_padLeft 6 _
    have hnext : NoDigitNext rest := fun c hc => (hrest c hc).1
    have hlen : ds.length = 6 := Iso.length_padded (by decide) hmicros
    have hnil : ds.isEmpty = false := by
      rw [List.isEmpty_eq_false_iff, ← List.length_pos_iff, hlen]
      decide
    have hvalue : Integer.ofDigits? 0 ds = some (time % microsPerSecond) := by
      rw [ofDigits?_eq hdigits]
      exact congrArg some (ofDigitChars_padLeft 6 _)
    rw [if_neg hzero]
    simp [takeWhile_digits hdigits hnext, dropWhile_digits hdigits hnext, hnil, hlt, hlen, hvalue,
      List.take_of_length_le hlen.le]

/-- A number of microseconds that makes up whole minutes. -/
theorem whole_minutes {micros : Nat} (h : micros % (60 * microsPerSecond) = 0) :
    (micros / microsPerSecond / 60 / 60 * 60 + micros / microsPerSecond / 60 % 60) * 60 * microsPerSecond =
      micros := by
  unfold microsPerSecond at *
  omega

theorem zone?_offset {o : Int} (hlt : o.natAbs < microsPerDay) (hminute : o.natAbs % (60 * microsPerSecond) = 0) :
    zone? ((if o < 0 then '-' else '+') :: hoursAndMinutes o.natAbs) = some (some o) := by
  have hhours : o.natAbs / microsPerSecond / 60 / 60 < 10 ^ 2 := by
    unfold microsPerSecond microsPerDay at *
    omega
  have hminutes : o.natAbs / microsPerSecond / 60 % 60 < 60 := Nat.mod_lt _ (by decide)
  have hfull := whole_minutes hminute
  have hread : ∀ c sign, sign? c = some sign → zone? (c :: hoursAndMinutes o.natAbs) =
      some (some (sign * o.natAbs)) := by
    intro c sign hsign
    have hz : c ≠ 'Z' ∧ c ≠ 'z' := by
      refine ⟨?_, ?_⟩ <;> rintro rfl <;> cases hsign
    rw [zone?.eq_def]
    split
    · rename_i heq
      cases heq
    · rename_i heq
      exact absurd (List.cons.inj heq).1 hz.1
    · rename_i heq
      exact absurd (List.cons.inj heq).1 hz.2
    · rename_i heq
      obtain ⟨rfl, rfl⟩ := List.cons.inj heq
      unfold hoursAndMinutes
      dsimp only
      rw [hsign, digits?_padded (by decide) hhours, ← List.append_nil (padded 2 (o.natAbs / microsPerSecond / 60 % 60))]
      simp only [Option.bind_eq_bind, Option.bind_some]
      rw [digits?_padded (by decide) (by omega)]
      simp only [Option.bind_some, List.isEmpty_nil, hminutes, decide_true, Bool.and_true, if_true, hfull]
      rfl
  split_ifs with hneg
  · rw [hread '-' (-1) rfl]
    exact congrArg (fun n => some (some n)) (by omega)
  · rw [hread '+' 1 rfl]
    exact congrArg (fun n => some (some n)) (by omega)

end Stored

/-! ## Stored times -/

namespace DateTime

/-- The distance from UTC, if there is one, is a number of whole minutes. -/
def IsToMinute (d : DateTime) : Prop :=
  ∀ o ∈ d.offset, o.natAbs % (60 * microsPerSecond) = 0

/-- What a stored time says about the distance from UTC. -/
def zoneText : Option Int → List Char
  | none => []
  | some 0 => ['Z']
  | some o => (if o < 0 then '-' else '+') :: hoursAndMinutes o.natAbs

theorem storedText_eq (d : DateTime) :
    d.storedText.toList = d.date.textList ++ 'T' :: (clockText d.time ++ zoneText d.offset) := by
  rw [storedText, String.toList_ofList, List.append_assoc, List.cons_append]
  congr 3

theorem endsClock_zoneText (offset : Option Int) : Stored.EndsClock (zoneText offset) := by
  intro c hc
  unfold zoneText at hc
  split at hc
  · cases hc
  · cases hc
    decide
  · rw [List.head?_cons, Option.mem_some_iff] at hc
    rw [← hc]
    split_ifs <;> decide

theorem zone?_zoneText {d : DateTime} (hd : d.IsToMinute) : Stored.zone? (zoneText d.offset) = some d.offset := by
  unfold zoneText
  split
  · rename_i h
    rw [h]
    rfl
  · rename_i h
    rw [h]
    rfl
  · rename_i o _ h
    rw [h]
    exact Stored.zone?_offset (d.offset_lt o h) (hd o h)

end DateTime

namespace Stored

open Iso (digits?_padded)

/-- A time is read as it was written, if its distance from UTC can be written. -/
theorem dateTimeText?_storedText {d : DateTime} (hd : d.IsToMinute) :
    dateTimeText? d.storedText.toList = some d := by
  have htime := d.time_lt
  have hhours : d.time / microsPerSecond / 60 / 60 < 24 := by
    unfold microsPerSecond microsPerDay at *
    omega
  have hminutes : d.time / microsPerSecond / 60 % 60 < 60 := Nat.mod_lt _ (by decide)
  have hsum : (d.time / microsPerSecond / 60 / 60 * 60 + d.time / microsPerSecond / 60 % 60) * 60 * microsPerSecond +
      (d.time / microsPerSecond % 60 * microsPerSecond + d.time % microsPerSecond) = d.time := by
    unfold microsPerSecond
    omega
  have hof : DateTime.of? d.date d.time d.offset = some d := by
    rw [DateTime.of?, dif_pos ⟨d.time_lt, d.offset_lt⟩]
  rw [DateTime.storedText_eq]
  unfold dateTimeText?
  rw [date?_textList]
  simp only [Option.bind_eq_bind, Option.bind_some]
  rw [if_pos (by decide)]
  unfold clockText hoursAndMinutes
  simp only [List.append_assoc, List.cons_append]
  rw [digits?_padded (by decide) (by omega)]
  simp only [Option.bind_some]
  rw [digits?_padded (by decide) (by omega)]
  simp only [Option.bind_some]
  rw [seconds?_text d.time (DateTime.endsClock_zoneText _)]
  simp only [Option.bind_some, DateTime.zone?_zoneText hd, hhours, hminutes, and_self, if_true, hsum, hof]

theorem ofText?_storedText {d : DateTime} (hd : d.IsToMinute) : ofText? d.storedText = some d := by
  rw [ofText?, dateTimeText?_storedText hd]

end Stored

end Segmentation.Calendar

namespace Segmentation

theorem Schema.time_storedText {d : Calendar.DateTime} (hd : d.IsToMinute) :
    Schema.time (.text d.storedText) = .ok d := by
  simp only [Schema.time, Schema.text, Calendar.Stored.ofText?_storedText hd]

end Segmentation
