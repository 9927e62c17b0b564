import Segmentation.Catalogue.Contact
import Segmentation.Proofs.Calendar.Span
import Segmentation.Proofs.Catalogue.Operators
import Segmentation.Proofs.Evaluation.SeveralValues
import Segmentation.Proofs.Evaluation.Verdict
import Segmentation.Proofs.Number.Written

/-!
# The last days

* `Operand.windowStart?`: the instant at which the window of the last days begins, if there is one.
* `Operand.Counts.windowStart?_eq`: a natural number of days has a window as long as it reaches back to no day
  before the first one of the calendar.
* `Condition.holds_recently`: a condition on the last days, or on the time before them, needs a date and a window.
* `Condition.recently_window`: with both, exactly one of the two conditions holds, and a longer window holds what a
  shorter one does.
-/

namespace Segmentation

open Calendar Binary64

/-! ## Windows -/

namespace Operand

/-- The instant at which the window of the last days begins, if the operand is a number and the calendar reaches
so far back. -/
def windowStart? (now : DateTime) (value : Operand) : Option Int :=
  match value.toValue.number? with
  | .ok (some days) => now.daysBefore? days
  | _ => none

/-- There is no window if the operand is no number, or if one of so many days does not fit the calendar. -/
theorem windowStart?_eq_none {now : DateTime} {value : Operand} :
    value.windowStart? now = none ↔
      (∀ days, value.toValue.number? ≠ .ok (some days)) ∨
        ∃ days, value.toValue.number? = .ok (some days) ∧ now.daysBefore? days = none := by
  unfold windowStart?
  split
  · rename_i days hdays
    simp [hdays]
  · rename_i hno
    simp only [true_iff]
    exact .inl hno

/-- The operand stands for a natural number: as an integer, as a floating-point number, or by its digits. -/
inductive Counts (n : Nat) : Operand → Prop
  | int : Counts n (.int n)
  | float {x : Binary64} (hfinite : x.isFinite = true) (hposition : x.position = n * 2 ^ 1074) : Counts n (.float x)
  | digits : Counts n (.text (String.ofList (Integer.digits n)))

/-- A natural number of days has a window as long as the day at which it begins exists. -/
theorem Counts.windowStart?_eq {value : Operand} {n : Nat} (h : value.Counts n) (now : DateTime) :
    value.windowStart? now =
      if n < now.date.dayNumber then some (now.instant - n * microsPerDay) else none := by
  have hwindow : ∀ {days}, value.toValue.number? = .ok (some days) →
      value.windowStart? now = now.daysBefore? days := by
    intro days hdays
    rw [Operand.windowStart?, hdays]
  cases h with
  | int =>
    rw [← now.daysBefore?_ofInt]
    by_cases hfinite : (ofInt n).isFinite = true
    · exact hwindow (if_pos hfinite)
    · have hnumber : (toValue (.int n)).number? = .error .numberTooLarge := if_neg hfinite
      rw [Operand.windowStart?, hnumber, now.daysBefore?_of_not_finite (by simpa using hfinite)]
  | float hfinite hposition =>
    rw [hwindow (congrArg Except.ok (if_neg (by simp [isNan_of_isFinite hfinite]))),
      now.daysBefore?_of_position hfinite hposition]
    have hlast := now.date.dayNumber_le
    congr 1
    rw [eq_iff_iff]
    omega
  | digits =>
    rw [← now.daysBefore?_ofInt]
    refine hwindow (congrArg Except.ok ?_)
    rw [(Integer.onlyNumberChars_digits n).trim, ofText?_digits]
    exact if_neg (by simp [isNan_ofInt])

end Operand

namespace Comparison

/-- The question about the last days has an answer if there are a date and a window. -/
theorem inLastDays_eq_ok {recent : Bool} {now : DateTime} {actual : Value} {expected : Operand} :
    inLastDays recent now actual expected.toValue = .ok true ↔
      ∃ moment start, actual.moment? = some moment ∧ expected.windowStart? now = some start ∧
        decide (start ≤ moment.instant) = recent := by
  unfold inLastDays Operand.windowStart? DateTime.daysBefore?
  cases hdays : expected.toValue.number? with
  | error cause => simp [bind, Except.bind]
  | ok days =>
    cases hmoment : actual.moment? with
    | none => simp [bind, Except.bind, pure, Except.pure]
    | some moment =>
      cases days with
      | none => simp [bind, Except.bind, pure, Except.pure]
      | some days =>
        simp only [bind, Except.bind]
        cases hmicros : microsOfDays? days with
        | none => simp
        | some micros =>
          cases hstart : now.instantBefore? micros with
          | none => simp [hstart]
          | some start =>
            cases recent <;> simp [hstart, pure, Except.pure]

end Comparison

/-- The operator that asks for the last days, or for the time before them. -/
def Operator.lastDays (recent : Bool) : Operator :=
  if recent then .inLastDays else .notInLastDays

namespace Condition

/-- The condition with the question whether a date lies in the last days, or before them. -/
def recently (recent : Bool) (c : Condition) : Condition :=
  { c with operator := .known (.lastDays recent) }

section Recently

variable {catalogue : Catalogue} {c : Condition}

/-- Such a condition holds if there are a date and a window, and the date lies on the right side of its start. -/
theorem holds_recently {recent : Bool} (hmem : .lastDays recent ∈ catalogue.operatorsFor c.field) (now : DateTime)
    (record : Value) :
    (c.recently recent).holds catalogue now record = true ↔
      ∃ moment start, (record.resolve c.field).moment? = some moment ∧ c.value.windowStart? now = some start ∧
        decide (start ≤ moment.instant) = recent := by
  have honDates : (Operator.lastDays recent).onDates = .lastDays recent := by
    cases recent <;> rfl
  have hcanonical := Catalogue.canonicalOperator?_of_mem (fun _ => honDates) hmem
  have happly : ∀ type raw upper, Comparison.apply (.lastDays recent) type raw c.value upper now =
      Comparison.inLastDays recent now (Comparison.stored type raw) c.value.toValue := by
    intro type raw upper
    cases recent <;> rfl
  rw [holds_eq_true (c := c.recently recent) rfl hcanonical]
  simp only [recently, happly, Comparison.inLastDays_eq_ok, Comparison.moment?_stored]

variable {now : DateTime} {record : Value} {moment : DateTime}

/-- With a date and a window the answer is which side of the start of the window the date lies on. -/
theorem holds_recently_of_window {recent : Bool} (hmem : .lastDays recent ∈ catalogue.operatorsFor c.field)
    {start : Int} (hmoment : (record.resolve c.field).moment? = some moment)
    (hstart : c.value.windowStart? now = some start) :
    (c.recently recent).holds catalogue now record = (decide (start ≤ moment.instant) == recent) := by
  rw [Bool.eq_iff_iff, holds_recently hmem, beq_iff_eq]
  constructor
  · rintro ⟨_, _, hmoment', hstart', hside⟩
    rw [hmoment] at hmoment'
    rw [hstart] at hstart'
    cases hmoment'
    cases hstart'
    exact hside
  · exact fun hside => ⟨moment, start, hmoment, hstart, hside⟩

/-- Neither question has a positive answer exactly if the date or the window is missing. -/
theorem forall_not_holds_recently (hmem : ∀ recent, .lastDays recent ∈ catalogue.operatorsFor c.field) :
    (∀ recent, (c.recently recent).holds catalogue now record = false) ↔
      (record.resolve c.field).moment? = none ∨ c.value.windowStart? now = none := by
  cases hmoment : (record.resolve c.field).moment? with
  | none =>
    simp only [true_or, iff_true]
    intro recent
    rw [← Bool.not_eq_true, holds_recently (hmem recent), hmoment]
    simp
  | some moment =>
    cases hstart : c.value.windowStart? now with
    | none =>
      simp only [or_true, iff_true]
      intro recent
      rw [← Bool.not_eq_true, holds_recently (hmem recent), hstart]
      simp
    | some start =>
      simp only [reduceCtorEq, or_self, iff_false, not_forall, Bool.not_eq_false]
      exact ⟨decide (start ≤ moment.instant), by
        rw [holds_recently_of_window (hmem _) hmoment hstart, beq_self_eq_true]⟩

/-- For a date and a natural number of days that reach back to the first day of the calendar at most, a condition on
the last days and its opposite answer for the two sides of the start of the window, and a longer window holds what a
shorter one does. Both fail for a date or a number that cannot be read, and for days that reach back further. -/
theorem recently_window (hmem : ∀ recent, .lastDays recent ∈ catalogue.operatorsFor c.field) (now : DateTime)
    (record : Value) :
    (∀ moment n, (record.resolve c.field).moment? = some moment → c.value.Counts n →
      (n < now.date.dayNumber →
        (c.recently true).holds catalogue now record =
          decide (now.instant - n * microsPerDay ≤ moment.instant) ∧
        (c.recently false).holds catalogue now record = !(c.recently true).holds catalogue now record) ∧
      (now.date.dayNumber ≤ n → ∀ recent, (c.recently recent).holds catalogue now record = false)) ∧
    (∀ longer n m, c.value.Counts n → Operand.Counts m longer → n ≤ m → m < now.date.dayNumber →
      (c.recently true).holds catalogue now record = true →
        ({ c with value := longer }.recently true).holds catalogue now record = true) ∧
    ((∀ recent, (c.recently recent).holds catalogue now record = false) ↔
      (record.resolve c.field).moment? = none ∨ (∀ days, c.value.toValue.number? ≠ .ok (some days)) ∨
        ∃ days, c.value.toValue.number? = .ok (some days) ∧ now.daysBefore? days = none) := by
  refine ⟨fun moment n hmoment hcounts => ⟨fun hn => ?_, fun hn => ?_⟩, ?_, ?_⟩
  · have hstart := hcounts.windowStart?_eq now
    rw [if_pos hn] at hstart
    rw [holds_recently_of_window (hmem true) hmoment hstart, holds_recently_of_window (hmem false) hmoment hstart]
    exact ⟨beq_true _, by rw [beq_true, beq_false]⟩
  · rw [forall_not_holds_recently hmem, hcounts.windowStart?_eq, if_neg (not_lt.2 hn)]
    exact .inr rfl
  · intro longer n m hn hm hle hlt hholds
    obtain ⟨moment, start, hmoment, hstart, hside⟩ := (holds_recently (hmem true) now record).1 hholds
    refine (holds_recently (c := { c with value := longer }) (hmem true) now record).2
      ⟨moment, now.instant - m * microsPerDay, hmoment, ?_, ?_⟩
    · exact (hm.windowStart?_eq now).trans (if_pos hlt)
    · -- The longer window starts earlier.
      rw [hn.windowStart?_eq, if_pos (hle.trans_lt hlt), Option.some_inj] at hstart
      have hdays : (n * microsPerDay : Int) ≤ m * microsPerDay := by
        exact_mod_cast Nat.mul_le_mul_right microsPerDay hle
      rw [decide_eq_true_eq] at hside ⊢
      omega
  · rw [forall_not_holds_recently hmem, Operand.windowStart?_eq_none]

end Recently

/-- A record of the twelfth of October, seen on the seventeenth, with windows of a week and of all days. -/
theorem recently_window_week :
    let week : Condition := ⟨"c", "created_at", .known .inLastDays, .int 7, .null⟩
    let now : DateTime := ⟨⟨2026, 10, 17, by decide⟩, 43200000000, some 0, by decide, by decide⟩
    let record : Value := .ofFields [("created_at", .date ⟨2026, 10, 12, by decide⟩)]
    (∀ recent, .lastDays recent ∈ Catalogue.contact.operatorsFor week.field) ∧
      (week.recently true).holds .contact now record = true ∧
      (week.recently false).holds .contact now record = false ∧
      ({ week with value := .int 739905 }.recently true).holds .contact now record = true := by
  intro week now record
  have hmem : ∀ recent, .lastDays recent ∈ Catalogue.contact.operatorsFor week.field := by decide
  have hnumber : now.date.dayNumber = 739906 := by decide
  obtain ⟨hsides, hlonger, -⟩ := recently_window hmem now record
  obtain ⟨hrecent, hopposite⟩ :=
    (hsides (DateTime.midnight ⟨2026, 10, 12, by decide⟩).inUtcIfNaive 7 rfl .int).1 (by rw [hnumber]; decide)
  have hholds : (week.recently true).holds .contact now record = true := hrecent.trans (by decide)
  refine ⟨hmem, hholds, by rw [hopposite, hholds]; rfl, ?_⟩
  exact hlonger (.int 739905) 7 739905 .int .int (by decide) (by rw [hnumber]; decide) hholds

/-- A window of a million days would start before the first day of the calendar. -/
theorem not_holds_recently_million :
    let c : Condition := ⟨"c", "created_at", .known .inLastDays, .int 1000000, .null⟩
    let now : DateTime := ⟨⟨2026, 10, 17, by decide⟩, 43200000000, some 0, by decide, by decide⟩
    let moment : DateTime := (DateTime.midnight ⟨2026, 1, 1, by decide⟩).inUtcIfNaive
    let record : Value := .ofFields [("created_at", .date ⟨2026, 1, 1, by decide⟩)]
    (record.resolve c.field).moment? = some moment ∧ c.value.Counts 1000000 ∧
      now.instant - 1000000 * microsPerDay ≤ moment.instant ∧
      (c.recently true).holds .contact now record = false ∧
      (c.recently false).holds .contact now record = false := by
  intro c now moment record
  exact ⟨rfl, .int, by decide, by decide +kernel, by decide +kernel⟩

end Condition

end Segmentation
