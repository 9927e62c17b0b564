import Segmentation.Calendar.Iso
import Segmentation.Proofs.Calendar.StoredText

/-!
# ISO text of dates and times

* `Iso.flatMap_utf8Units`: text in ASCII is read character by character.
* `Iso.clock?_hoursAndMinutes`, `Iso.clock?_clockText`: a clock reading without and with seconds.
* `Iso.time?_clockText`: a time of day with a distance from UTC, which may have seconds as well.
* `Iso.dateTimeList?_textList`, `Iso.dateTimeList?_isoList`: a date and a datetime are read as they were written, with
  any separator in ASCII.
-/

namespace Segmentation.Calendar

open Integer Binary64

/-! ## Characters -/

/-- The characters between the separator and the distance from UTC. -/
def IsClockChar (c : Char) : Prop :=
  c.isDigit = true ∨ c = ':' ∨ c = '.'

theorem isClockChar_padded {width n : Nat} : ∀ c ∈ padded width n, IsClockChar c :=
  fun c hc => .inl (allDigits_padLeft width n c hc)

theorem isClockChar_hoursAndMinutes (micros : Nat) : ∀ c ∈ hoursAndMinutes micros, IsClockChar c := by
  unfold hoursAndMinutes
  simp only [List.forall_mem_append, List.forall_mem_cons]
  exact ⟨isClockChar_padded, .inr (.inl rfl), isClockChar_padded⟩

theorem isClockChar_secondsText (micros : Nat) : ∀ c ∈ secondsText micros, IsClockChar c :=
  List.forall_mem_cons.2 ⟨.inr (.inl rfl), isClockChar_padded⟩

theorem isClockChar_fractionText (micros : Nat) : ∀ c ∈ Calendar.fractionText micros, IsClockChar c := by
  unfold Calendar.fractionText
  dsimp only
  split
  · exact fun c hc => by cases hc
  · exact List.forall_mem_cons.2 ⟨.inr (.inr rfl), isClockChar_padded⟩

theorem isClockChar_clockText (time : Nat) : ∀ c ∈ clockText time, IsClockChar c :=
  List.forall_mem_append.2 ⟨List.forall_mem_append.2
    ⟨isClockChar_hoursAndMinutes time, isClockChar_secondsText time⟩, isClockChar_fractionText time⟩

theorem toNat_lt_of_isDigit {c : Char} (h : c.isDigit = true) : c.toNat < 0x80 := by
  have hval : 48 ≤ c.toNat ∧ c.toNat ≤ 57 := by simpa [Char.isDigit, UInt32.le_iff_toNat_le] using h
  omega

theorem IsClockChar.toNat_lt {c : Char} (h : IsClockChar c) : c.toNat < 0x80 := by
  rcases h with h | rfl | rfl
  · exact toNat_lt_of_isDigit h
  · decide
  · decide

theorem IsClockChar.startsZone {c : Char} (h : IsClockChar c) : Iso.startsZone c = false := by
  rcases h with h | rfl | rfl
  · have hne : ∀ d : Char, d.isDigit = false → c ≠ d := by
      rintro d hd rfl
      exact Bool.false_ne_true (hd.symm.trans h)
    simp [Iso.startsZone, hne '+' (by decide), hne '-' (by decide), hne 'Z' (by decide)]
  · decide
  · decide

namespace Iso

/-- Text in ASCII is read character by character. -/
theorem flatMap_utf8Units {cs : List Char} (hcs : ∀ c ∈ cs, c.toNat < 0x80) : cs.flatMap utf8Units = cs := by
  induction cs with
  | nil => rfl
  | cons c cs ih =>
    rw [List.forall_mem_cons] at hcs
    rw [List.flatMap_cons, ih hcs.2, utf8Units]
    simp [hcs.1]

/-! ## Clock readings -/

theorem padded_ne_nil (width n : Nat) : padded width n ≠ [] := by
  have hpos : 0 < (Nat.toDigits 10 n).length := Nat.length_toDigits_pos
  rw [← List.length_pos_iff, padded, length_padLeft]
  exact lt_of_lt_of_le hpos (le_max_right _ _)

theorem next?_colon {cs : List Char} (hcs : cs ≠ []) : next? true (':' :: cs) = some (.component cs) := by
  cases cs with
  | nil => exact absurd rfl hcs
  | cons c cs => rfl

theorem next?_point {cs : List Char} (hcs : cs ≠ []) : next? true ('.' :: cs) = some (.fraction cs) := by
  cases cs with
  | nil => exact absurd rfl hcs
  | cons c cs => rfl

theorem fraction?_padded {n : Nat} (hn : n < 10 ^ 6) : fraction? (padded 6 n) = some (n, false) := by
  have hread := digits?_padded (by decide) hn []
  rw [List.append_nil] at hread
  rw [fraction?, length_padded (by decide) hn, Nat.min_self, hread]
  simp [isLeftover]

section Clock

variable {micros : Nat} (hhours : micros / microsPerSecond / 60 / 60 < 10 ^ 2)

include hhours

/-- A clock reading without seconds. -/
theorem clock?_hoursAndMinutes :
    clock? (hoursAndMinutes micros) =
      some ⟨micros / microsPerSecond / 60 / 60, micros / microsPerSecond / 60 % 60, 0, 0, false⟩ := by
  have hminutes : micros / microsPerSecond / 60 % 60 < 10 ^ 2 := by omega
  have hread := digits?_padded (by decide) hminutes []
  rw [List.append_nil] at hread
  unfold clock? hoursAndMinutes
  dsimp only
  rw [digits?_padded (by decide) hhours]
  simp only [Option.bind_eq_bind, Option.bind_some, List.head?_cons, decide_true, next?_colon (padded_ne_nil _ _), hread]
  rfl

/-- A clock reading with seconds, and with a fraction if there is one. -/
theorem clock?_clockText :
    clock? (clockText micros) =
      some ⟨micros / microsPerSecond / 60 / 60, micros / microsPerSecond / 60 % 60, micros / microsPerSecond % 60,
        micros % microsPerSecond, false⟩ := by
  have hminutes : micros / microsPerSecond / 60 % 60 < 10 ^ 2 := by omega
  have hseconds : micros / microsPerSecond % 60 < 10 ^ 2 := by omega
  have hfraction : micros % microsPerSecond < 10 ^ 6 := Nat.mod_lt _ (by decide)
  have hnext : ∀ {n : Nat} {rest : List Char}, padded 2 n ++ rest ≠ [] :=
    fun h => padded_ne_nil _ _ (List.append_eq_nil_iff.1 h).1
  unfold clock? clockText hoursAndMinutes secondsText
  simp only [List.append_assoc, List.cons_append]
  rw [digits?_padded (by decide) hhours]
  simp only [Option.bind_eq_bind, Option.bind_some, List.head?_cons, decide_true, next?_colon hnext]
  rw [digits?_padded (by decide) hminutes]
  simp only [Option.bind_some, next?_colon hnext]
  rw [digits?_padded (by decide) hseconds]
  unfold Calendar.fractionText
  by_cases hzero : micros % microsPerSecond = 0
  · simp [hzero, next?]
  · simp [hzero, next?_point (padded_ne_nil _ _), fraction?_padded hfraction]

end Clock

/-- Hours, minutes, seconds and microseconds add up. -/
theorem total_clock (micros : Nat) (leftover : Bool) :
    (⟨micros / microsPerSecond / 60 / 60, micros / microsPerSecond / 60 % 60, micros / microsPerSecond % 60,
      micros % microsPerSecond, leftover⟩ : Clock).total = micros := by
  unfold Clock.total microsPerSecond
  dsimp only
  omega

theorem hours_lt {micros : Nat} (h : micros < microsPerDay) : micros / microsPerSecond / 60 / 60 < 24 := by
  unfold microsPerSecond microsPerDay at *
  omega

theorem timeOfDay?_clock {time : Nat} (htime : time < microsPerDay) (leftover : Bool) :
    (⟨time / microsPerSecond / 60 / 60, time / microsPerSecond / 60 % 60, time / microsPerSecond % 60,
      time % microsPerSecond, leftover⟩ : Clock).timeOfDay? = some time := by
  have hminutes : time / microsPerSecond / 60 % 60 < 60 := Nat.mod_lt _ (by decide)
  have hseconds : time / microsPerSecond % 60 < 60 := Nat.mod_lt _ (by decide)
  rw [Clock.timeOfDay?, if_pos ⟨hours_lt htime, hminutes, hseconds⟩, total_clock]

/-! ## Distances from UTC -/

/-- A distance from UTC is a sign and a clock reading, which leaves out the seconds if there are none. -/
theorem exists_offsetText {o : Int} (ho : o.natAbs < microsPerDay) :
    ∃ cs clock, offsetText o = (if o < 0 then '-' else '+') :: cs ∧ clock? cs = some clock ∧
      clock.total = o.natAbs ∧ clock.leftover = false := by
  have hhours := Nat.lt_trans (hours_lt ho) (show 24 < 10 ^ 2 by decide)
  by_cases hseconds : o.natAbs / microsPerSecond % 60 = 0 ∧ o.natAbs % microsPerSecond = 0
  · refine ⟨hoursAndMinutes o.natAbs, _, ?_, clock?_hoursAndMinutes hhours, ?_, rfl⟩
    · unfold offsetText
      dsimp only
      rw [if_pos hseconds, List.append_nil]
    · have htotal := total_clock o.natAbs false
      rwa [hseconds.1, hseconds.2] at htotal
  · refine ⟨clockText o.natAbs, _, ?_, clock?_clockText hhours, total_clock o.natAbs false, rfl⟩
    unfold offsetText clockText
    dsimp only
    rw [if_neg hseconds, List.append_assoc, List.cons_append]

/-- What ISO text says about the distance from UTC. -/
def zoneList : Option Int → List Char
  | none => []
  | some o => offsetText o

/-- It starts with a sign if there is any. -/
theorem span_zone {cs : List Char} (hcs : ∀ c ∈ cs, IsClockChar c) {zone : Option Int}
    (hzone : ∀ o ∈ zone, o.natAbs < microsPerDay) :
    (cs ++ zoneList zone).takeWhile (!startsZone ·) = cs ∧
      (cs ++ zoneList zone).dropWhile (!startsZone ·) = zoneList zone := by
  have hclock : ∀ c ∈ cs, (!startsZone c) = true := fun c hc => by rw [(hcs c hc).startsZone]; rfl
  rw [List.takeWhile_append_of_pos hclock, List.dropWhile_append_of_pos hclock]
  cases zone with
  | none => exact ⟨List.append_nil cs, rfl⟩
  | some o =>
    obtain ⟨ds, -, htext, -⟩ := exists_offsetText (hzone o rfl)
    have hsign : startsZone (if o < 0 then '-' else '+') = true := by split <;> rfl
    rw [zoneList, htext]
    simp [hsign]

/-- A time of day and a distance from UTC are read as they were written. -/
theorem time?_clockText {time : Nat} (htime : time < microsPerDay) {zone : Option Int}
    (hzone : ∀ o ∈ zone, o.natAbs < microsPerDay) : time? (clockText time ++ zoneList zone) = some (time, zone) := by
  have hhours := Nat.lt_trans (hours_lt htime) (show 24 < 10 ^ 2 by decide)
  obtain ⟨htake, hdrop⟩ := span_zone (isClockChar_clockText time) hzone
  unfold time?
  rw [htake, hdrop, clock?_clockText hhours]
  simp only [Option.bind_eq_bind, Option.bind_some, timeOfDay?_clock htime]
  cases zone with
  | none => rfl
  | some o =>
    obtain ⟨cs, clock, htext, hclock, htotal, hleftover⟩ := exists_offsetText (hzone o rfl)
    by_cases hneg : o < 0
    · rw [zoneList, htext, if_pos hneg]
      simp [hclock, hleftover, htotal, abs_of_neg hneg]
    · rw [zoneList, htext, if_neg hneg]
      simp [hclock, hleftover, htotal, abs_of_nonneg (not_lt.1 hneg)]

/-! ## Dates -/

theorem length_textList (d : Date) : d.textList.length = 10 := by
  obtain ⟨-, hyear, -, hmonth, -, hday⟩ := d.isDay
  have hdays := daysInMonth_le d.year d.month
  unfold Date.textList
  rw [List.length_append, List.length_cons, List.length_append, List.length_cons,
    length_padded (by decide) (by omega), length_padded (by decide) (by omega),
    length_padded (by decide) (by omega)]

theorem textList_append (d : Date) (rest : List Char) :
    d.textList ++ rest = padded 4 d.year ++ '-' :: (padded 2 d.month ++ '-' :: (padded 2 d.day ++ rest)) := by
  simp [Date.textList]

/-- No number of a week stands behind the year. -/
theorem head_padded_ne (width n : Nat) (rest : List Char) {c : Char} (hc : c.isDigit = false) :
    (padded width n ++ rest).head? ≠ some c := by
  rw [List.head?_append_of_ne_nil _ (padded_ne_nil width n)]
  intro h
  exact Bool.false_ne_true (hc.symm.trans (allDigits_padLeft width n c (List.mem_of_head? h)))

/-- The length of a date is found by its first hyphen. -/
theorem dateLength?_textList (d : Date) (rest : List Char) : dateLength? (d.textList ++ rest) = some 10 := by
  have hyear := d.isDay.2.1
  have hlen : (d.textList ++ rest).length ≠ 7 := by
    rw [List.length_append, length_textList]
    omega
  have hylen : (padded 4 d.year).length = 4 := length_padded (by decide) (by omega)
  have hhyphen : (d.textList ++ rest)[4]? = some '-' := by
    rw [textList_append, List.getElem?_append_right (by omega), hylen]
    rfl
  have hweek : (d.textList ++ rest)[5]? ≠ some 'W' := by
    rw [textList_append, List.getElem?_append_right (by omega), hylen]
    have hhead := head_padded_ne 2 d.month ('-' :: (padded 2 d.day ++ rest)) (c := 'W') (by decide)
    rwa [List.head?_eq_getElem?] at hhead
  unfold dateLength?
  dsimp only
  rw [if_neg hlen, if_pos hhyphen, if_neg hweek]

/-- A date is read as it was written. -/
theorem date?_textList (d : Date) (rest : List Char) : date? 10 (d.textList ++ rest) = some d := by
  obtain ⟨-, hyear, -, hmonth, -, hday⟩ := d.isDay
  have hdays := daysInMonth_le d.year d.month
  have hof : Date.of? d.year d.month d.day = some d := by rw [Date.of?, dif_pos d.isDay]
  have hlen : (d.textList ++ rest).length - rest.length = 10 := by
    rw [List.length_append, length_textList]
    omega
  have hfirst : digits? 4 0 (d.textList ++ rest) =
      some (d.year, '-' :: (padded 2 d.month ++ '-' :: (padded 2 d.day ++ rest))) := by
    rw [textList_append]
    exact digits?_padded (by decide) (by omega) _
  unfold date?
  rw [hfirst]
  simp only [Option.bind_eq_bind, Option.bind_some]
  split
  · rename_i heq
    exact absurd (congrArg List.head? heq) (head_padded_ne 2 d.month _ (by decide))
  · rw [digits?_padded (by decide) (by omega)]
    simp only [Option.bind_some, hyphen?, if_true]
    rw [digits?_padded (by decide) (by omega)]
    simp only [Option.bind_some, hlen, if_true, hof]

/-! ## Datetimes -/

theorem toNat_lt_of_mem_textList (d : Date) : ∀ c ∈ d.textList, c.toNat < 0x80 := by
  have hpadded : ∀ {width n : Nat}, ∀ c ∈ padded width n, c.toNat < 0x80 :=
    fun c hc => (isClockChar_padded c hc).toNat_lt
  unfold Date.textList
  simp only [List.forall_mem_append, List.forall_mem_cons]
  exact ⟨⟨hpadded, by decide, hpadded⟩, by decide, hpadded⟩

theorem toNat_lt_of_mem_zoneList (zone : Option Int) : ∀ c ∈ zoneList zone, c.toNat < 0x80 := by
  cases zone with
  | none => exact fun c hc => by cases hc
  | some o =>
    have hseconds : ∀ c ∈ (if o.natAbs / microsPerSecond % 60 = 0 ∧ o.natAbs % microsPerSecond = 0 then []
        else secondsText o.natAbs ++ Calendar.fractionText o.natAbs), IsClockChar c := by
      split_ifs
      · exact fun c hc => by cases hc
      · exact List.forall_mem_append.2 ⟨isClockChar_secondsText _, isClockChar_fractionText _⟩
    have hsign : (if o < 0 then '-' else '+').toNat < 0x80 := by split_ifs <;> decide
    refine List.forall_mem_cons.2 ⟨hsign, List.forall_mem_append.2 ⟨?_, ?_⟩⟩
    · exact fun c hc => (isClockChar_hoursAndMinutes _ c hc).toNat_lt
    · exact fun c hc => (hseconds c hc).toNat_lt

/-- A date alone is midnight. -/
theorem dateTimeList?_textList (d : Date) : dateTimeList? d.textList = some (.midnight d) := by
  have hlength := dateLength?_textList d []
  have hdate := date?_textList d []
  rw [List.append_nil] at hlength hdate
  unfold dateTimeList?
  rw [flatMap_utf8Units (toNat_lt_of_mem_textList d)]
  dsimp only
  rw [if_neg (by rw [length_textList]; decide), hlength]
  simp only [Option.bind_eq_bind, Option.bind_some, hdate, List.drop_of_length_le (length_textList d).le]

/-- A datetime is read as it was written. -/
theorem dateTimeList?_isoList (d : DateTime) {separator : Char} (hseparator : separator.toNat < 0x80) :
    dateTimeList? (d.date.textList ++ separator :: (clockText d.time ++ zoneList d.offset)) = some d := by
  have hascii : ∀ c ∈ d.date.textList ++ separator :: (clockText d.time ++ zoneList d.offset), c.toNat < 0x80 :=
    List.forall_mem_append.2 ⟨toNat_lt_of_mem_textList d.date, List.forall_mem_cons.2 ⟨hseparator,
      List.forall_mem_append.2 ⟨fun c hc => (isClockChar_clockText d.time c hc).toNat_lt,
        toNat_lt_of_mem_zoneList d.offset⟩⟩⟩
  have hlength : ¬(d.date.textList ++ separator :: (clockText d.time ++ zoneList d.offset)).length < 7 := by
    rw [List.length_append, length_textList]
    omega
  have hof : DateTime.of? d.date d.time d.offset = some d := by
    rw [DateTime.of?, dif_pos ⟨d.time_lt, d.offset_lt⟩]
  unfold dateTimeList?
  rw [flatMap_utf8Units hascii]
  dsimp only
  rw [if_neg hlength, dateLength?_textList]
  simp only [Option.bind_eq_bind, Option.bind_some, date?_textList, List.drop_left' (length_textList d.date),
    if_pos hseparator, List.drop_zero, time?_clockText d.time_lt d.offset_lt, hof]

end Iso

end Segmentation.Calendar
