import Mathlib.Tactic.IntervalCases
import Segmentation.Calendar.Span
import Segmentation.Proofs.Number.Integers

/-!
# Days before a time

* `Date.dayNumber_pos`, `Date.dayNumber_le`: the days of the calendar are numbered from its first to its last one.
* `microsOfDays?_of_position`: a whole number of days is so many times the microseconds of a day.
* `DateTime.daysBefore?_of_position`: the time so many days before another one exists if its day does.
* `DateTime.daysBefore?_ofInt`: for natural numbers that is up to the first day of the calendar.
-/

namespace Segmentation.Calendar

open Binary64

/-! ## Numbers of days -/

section DayNumber

variable (d : Date)

theorem Date.dayNumber_pos : 1 ≤ d.dayNumber := by
  have hday := d.isDay.2.2.2.2.1
  unfold dayNumber
  omega

/-- The place of a day in its year. -/
theorem Date.dayOfYear_le : daysBeforeMonth d.year d.month + d.day ≤ if isLeap d.year then 366 else 365 := by
  obtain ⟨-, -, hmonth, hmonth', -, hday⟩ := d.isDay
  generalize d.month = month at *
  generalize d.day = day at *
  unfold daysBeforeMonth
  interval_cases month <;> simp [daysInMonth, List.range_succ] at hday ⊢ <;> split_ifs at hday ⊢ <;> omega

/-- The last year ends with the last day. -/
theorem Date.dayNumber_le : d.dayNumber ≤ lastDayNumber := by
  have hplace := d.dayOfYear_le
  have hyear := d.isDay.2.1
  unfold dayNumber daysBeforeYear lastDayNumber
  dsimp only
  rcases hyear.eq_or_lt with heq | hlt
  · rw [heq] at hplace ⊢
    rw [if_neg (by decide)] at hplace
    omega
  · have hplace' : daysBeforeMonth d.year d.month + d.day ≤ 366 := by
      split_ifs at hplace <;> omega
    omega

end DayNumber

/-! ## Spans of whole days -/

theorem nearest_mul (k : Int) {den : Nat} (hden : 0 < den) : nearest (k * den) den = k := by
  have hden' : (den : Int) ≠ 0 := by omega
  simp [nearest, Int.mul_ediv_cancel _ hden', hden]

/-- Whole days leave no rest. -/
theorem daysAndMicros_of_mantissa {k mant : Nat} {exp : Int} (hmin : -1074 ≤ exp)
    (h : mant * 2 ^ (exp + 1074).toNat = k * 2 ^ 1074) :
    ∃ den, 0 < den ∧ daysAndMicros mant exp = (k, 0, den) := by
  have habs : mant * 2 ^ (exp + 1074).toNat = (k : Int).natAbs * 2 ^ 1074 := h
  unfold daysAndMicros
  rcases lt_or_ge exp 0 with hneg | hnonneg
  · have hmant := mantissa_of_neg hmin hneg habs
    have hpos : 0 < 2 ^ (-exp).toNat := Nat.pow_pos Nat.two_pos
    rw [Int.natAbs_natCast] at hmant
    rw [if_neg (not_le.2 hneg), hmant]
    simp only [Nat.pow_eq, Nat.mul_mod_left, Nat.zero_mul, Nat.mul_div_cancel _ hpos, ofRatio_zero]
    exact ⟨_, Nat.pow_pos Nat.two_pos, rfl⟩
  · have hvalue := mantissa_of_nonneg hnonneg habs
    rw [Int.natAbs_natCast] at hvalue
    rw [if_pos hnonneg, Nat.pow_eq, hvalue]
    exact ⟨1, Nat.one_pos, rfl⟩

section AtInteger

variable {x : Binary64} {k : Int}

/-- A whole number of days is so many times the microseconds of a day, up to the greatest span. -/
theorem microsOfDays?_of_position (hx : x.isFinite = true) (hk : x.position = k * 2 ^ 1074) :
    microsOfDays? x = if -maxSpanDays ≤ k ∧ k ≤ maxSpanDays then some (k * microsPerDay) else none := by
  cases x with
  | finite negative mant exp h =>
    obtain ⟨habs, hsign⟩ := mantissa_of_position hk
    obtain ⟨den, hden, hdays⟩ := daysAndMicros_of_mantissa h.2.1 habs
    have hmagnitude : (if negative then -((k.natAbs * microsPerDay * den + 0 : Nat) : Int)
        else ((k.natAbs * microsPerDay * den + 0 : Nat) : Int)) = k * microsPerDay * den := by
      rw [Nat.add_zero, ← signed, signed_mul, signed_mul, hsign]
    have hwhole : k * microsPerDay / (microsPerDay : Int) = k := Int.mul_ediv_cancel _ (by decide)
    unfold microsOfDays?
    dsimp only
    rw [hdays]
    dsimp only
    rw [hmagnitude, nearest_mul _ hden, hwhole]
  | _ => cases hx

/-- The instant that lies a number of days before a time, if the calendar reaches so far. -/
def DateTime.daysBefore? (now : DateTime) (days : Binary64) : Option Int :=
  (microsOfDays? days).bind now.instantBefore?

theorem DateTime.daysBefore?_of_not_finite (now : DateTime) (hx : x.isFinite = false) : now.daysBefore? x = none := by
  cases x with
  | finite => cases hx
  | _ => rfl

/-- A whole number of days before a time it is the same time of day. -/
theorem DateTime.daysBefore?_of_position (now : DateTime) (hx : x.isFinite = true)
    (hk : x.position = k * 2 ^ 1074) :
    now.daysBefore? x =
      if 1 ≤ now.date.dayNumber - k ∧ now.date.dayNumber - k ≤ lastDayNumber then
        some (now.instant - k * microsPerDay)
      else none := by
  have hpos := now.date.dayNumber_pos
  have hlast := now.date.dayNumber_le
  have htime := now.time_lt
  have hday : (now.wall - k * microsPerDay) / (microsPerDay : Int) = now.date.dayNumber - k := by
    unfold wall microsPerDay at *
    omega
  have hinstant : now.wall - k * microsPerDay - now.offset.getD 0 = now.instant - k * microsPerDay := by
    unfold instant
    omega
  unfold daysBefore?
  rw [microsOfDays?_of_position hx hk]
  split_ifs with hspan hrange hrange
  · rw [Option.bind_some, instantBefore?, hday, hinstant, if_pos hrange]
  · rw [Option.bind_some, instantBefore?, hday, if_neg hrange]
  · unfold lastDayNumber maxSpanDays at *
    omega
  · rfl

end AtInteger

/-- A natural number of days before a time lies in the calendar if the days reach back to its first day at most. -/
theorem DateTime.daysBefore?_ofInt (now : DateTime) (n : Nat) :
    now.daysBefore? (ofInt n) =
      if n < now.date.dayNumber then some (now.instant - n * microsPerDay) else none := by
  have hlast := now.date.dayNumber_le
  have hcalendar : lastDayNumber ≤ 2 ^ 53 := by decide
  rcases Nat.le_or_ge n (2 ^ 53) with hn | hn
  · obtain ⟨hfinite, hposition⟩ := position_ofInt_of_le (n := n) hn
    rw [now.daysBefore?_of_position hfinite hposition]
    congr 1
    rw [eq_iff_iff]
    omega
  · rw [if_neg (by omega)]
    by_cases hfinite : (ofInt n).isFinite = true
    · -- Rounding brings no number beyond the exact ones back into the calendar.
      obtain ⟨k, hk⟩ := exists_position_ofInt hfinite
      have hmono := position_ofInt_mono (show ((2 ^ 53 : Nat) : Int) ≤ n by exact_mod_cast hn)
      rw [(position_ofInt_of_le (n := (2 ^ 53 : Nat)) le_rfl).2, hk] at hmono
      have hlarge := Int.le_of_mul_le_mul_right hmono (by positivity)
      rw [now.daysBefore?_of_position hfinite hk, if_neg (by omega)]
    · exact now.daysBefore?_of_not_finite (by simpa using hfinite)

end Segmentation.Calendar
