import Segmentation.Proofs.Evaluation.Independence
import Segmentation.Proofs.Evaluation.Ordering
import Segmentation.Proofs.Value.DateText

/-!
# Dates as instants

A date may be written in many ways; operators on dates see none of them, but only the instant in UTC.

* `Value.Shows`: ways of giving one datetime, all of which denote its instant.
* `Comparison.answerOnDates`: the operators on dates for operands of any kind.
* `Comparison.answerOnDates_congr`: they depend on the instants of the values.
* `Condition.verdict_redated`: so a condition on dates gets the same verdict with other dates of the same instants.
-/

namespace Segmentation

open Calendar

namespace Calendar

@[simp] theorem DateTime.instant_inUtcIfNaive (d : DateTime) : d.inUtcIfNaive.instant = d.instant := by
  unfold inUtcIfNaive
  cases h : d.offset with
  | none => simp [instant, wall, h]
  | some o => rfl

/-- A clock in UTC, or one that does not say where it is, shows the instant as it is. -/
theorem DateTime.instant_inUtc {d : DateTime} (hutc : d.offset.getD 0 = 0) : d.inUtc.instant = d.instant := by
  simp [instant, wall, inUtc, hutc]

end Calendar

/-! ## Instants of values -/

namespace Value

/-- The instant of a value that denotes a moment. -/
def instant? (v : Value) : Option Int :=
  v.moment?.map DateTime.instant

/-- The value gives the datetime: as a datetime, as a date if it is midnight by a clock that does not say where it is,
or as a text, with any separator in ASCII between date and time and with a trailing Z for a clock in UTC. -/
inductive Shows : DateTime → Value → Prop
  | datetime (d : DateTime) : Shows d (.datetime d)
  | date (day : Date) : Shows (.midnight day) (.date day)
  | dateText (day : Date) : Shows (.midnight day) (.text day.text)
  | text (d : DateTime) {separator : Char} (hseparator : separator.toNat < 0x80) :
      Shows d (.text (d.textWith separator))
  | zulu {d : DateTime} (hutc : d.offset.getD 0 = 0) {separator : Char} (hseparator : separator.toNat < 0x80) :
      Shows d (.text (d.zuluWith separator))

/-- However a datetime is given, the value denotes its instant. -/
theorem Shows.instant? {d : DateTime} {v : Value} (h : v.Shows d) : v.instant? = some d.instant := by
  cases h with
  | datetime => exact congrArg some d.instant_inUtcIfNaive
  | date day => exact congrArg some (DateTime.midnight day).instant_inUtcIfNaive
  | dateText day =>
    rw [Value.instant?, moment?_dateText]
    exact congrArg some (DateTime.midnight day).instant_inUtcIfNaive
  | text _ hseparator =>
    rw [Value.instant?, moment?_textWith d hseparator]
    exact congrArg some d.instant_inUtcIfNaive
  | zulu hutc hseparator =>
    rw [Value.instant?, moment?_zuluWith d hseparator]
    exact congrArg some (DateTime.instant_inUtc hutc)

theorem instant?_congr {v w : Value} (h : w.instant? = v.instant?) :
    (w.moment? = none ∧ v.moment? = none) ∨
      ∃ d e, v.moment? = some d ∧ w.moment? = some e ∧ e.instant = d.instant := by
  unfold Value.instant? at h
  cases hv : v.moment? with
  | none =>
    rw [hv] at h
    exact .inl ⟨Option.map_eq_none_iff.1 h, rfl⟩
  | some d =>
    rw [hv] at h
    obtain ⟨e, he, hinstant⟩ := Option.map_eq_some_iff.1 h
    exact .inr ⟨d, e, rfl, he, hinstant⟩

/-- No end of a range is given. -/
def isUnset : Value → Bool
  | null => true
  | text s => s = ""
  | _ => false

/-- What denotes an instant is given. -/
theorem isUnset_of_instant? {v : Value} {instant : Int} (h : v.instant? = some instant) : v.isUnset = false := by
  cases v with
  | null => cases h
  | text s =>
    refine decide_eq_false fun hs => ?_
    rw [hs] at h
    cases h
  | _ => rfl

end Value

theorem Operand.isUnset_toValue (o : Operand) : o.toValue.isUnset = o.isBlank := by
  cases o <;> rfl

/-- The operators that compare a date with an operand or with the reference time, also by their general names. -/
def Operator.forDates : List Operator :=
  [.before, .after, .lessThan, .greaterThan, .on, .between, .inLastDays, .notInLastDays]

/-! ## Operators on dates -/

namespace Comparison

/-- A range of dates whose ends may be of any kind. -/
def withinDates (actual low high : Value) : Bool :=
  match actual.instant?, low.instant? with
  | some instant, some lower =>
    if high.isUnset then lower ≤ instant
    else
      match high.instant? with
      | some upper => lower ≤ instant && instant ≤ upper
      | none => false
  | _, _ => false

/-- An operator on dates, applied to operands of any kind. -/
def answerOnDates (operator : Operator) (actual expected upper : Value) (now : DateTime) : Except Failure Bool :=
  match operator with
  | .greaterThan | .after => ordered .date (fun a b => b < a) actual expected
  | .lessThan | .before => ordered .date (fun a b => a < b) actual expected
  | .on => sameDay actual expected
  | .between => .ok (withinDates actual expected upper)
  | .inLastDays => inLastDays true now actual expected
  | .notInLastDays => inLastDays false now actual expected
  | _ => .ok false

variable {actual actual' expected expected' upper upper' : Value} {now : DateTime}

theorem instant?_stored (type : FieldType) (raw : Value) : (stored type raw).instant? = raw.instant? := by
  rw [Value.instant?, moment?_stored, Value.instant?]

theorem within_date (actual low : Value) (high : Operand) :
    within .date actual low high = .ok (withinDates actual low high.toValue) := by
  unfold within withinDates Value.instant? rank
  rw [Operand.isUnset_toValue]
  cases actual.moment? with
  | none => rfl
  | some d =>
    cases low.moment? with
    | none => rfl
    | some lo =>
      cases hblank : high.isBlank with
      | true => rfl
      | false =>
        cases high.toValue.moment? with
        | none => rfl
        | some hi => rfl

/-! ### Instants are all that is seen -/

theorem ordered_congr {relation : Int → Int → Bool} (hactual : actual'.instant? = actual.instant?)
    (hexpected : expected'.instant? = expected.instant?) :
    ordered .date relation actual' expected' = ordered .date relation actual expected := by
  have hordered : ∀ v w : Value, ordered .date relation v w =
      .ok (match v.instant?, w.instant? with
        | some a, some b => relation a b
        | _, _ => false) := by
    intro v w
    unfold ordered rank Value.instant?
    cases v.moment? <;> cases w.moment? <;> rfl
  rw [hordered, hordered, hactual, hexpected]

theorem utcDay_congr {d e : DateTime} (h : e.instant = d.instant) : utcDay e = utcDay d := by
  unfold utcDay DateTime.utcDayNumber
  rw [h]

theorem sameDay_congr (hactual : actual'.instant? = actual.instant?)
    (hexpected : expected'.instant? = expected.instant?) : sameDay actual' expected' = sameDay actual expected := by
  unfold sameDay
  rcases Value.instant?_congr hactual with ⟨h', h⟩ | ⟨d, d', h, h', hd⟩
  · rw [h', h]
  · rcases Value.instant?_congr hexpected with ⟨g', g⟩ | ⟨e, e', g, g', he⟩
    · rw [h', h, g', g]
    · rw [h', h, g', g]
      dsimp only
      rw [utcDay_congr hd, utcDay_congr he]

theorem inLastDays_congr {recent : Bool} (hactual : actual'.instant? = actual.instant?)
    (hexpected : expected'.number? = expected.number?) :
    inLastDays recent now actual' expected' = inLastDays recent now actual expected := by
  unfold inLastDays
  rw [hexpected]
  rcases Value.instant?_congr hactual with ⟨h', h⟩ | ⟨d, d', h, h', hd⟩
  · rw [h', h]
  · rw [h', h]
    refine bind_congr fun days => ?_
    cases days with
    | none => rfl
    | some x =>
      dsimp only
      rw [hd]

/-- An operator on dates sees the instants of the values, a number of days as a number, and whether an upper bound
is given. -/
theorem answerOnDates_congr {operator : Operator} (hactual : actual'.instant? = actual.instant?)
    (hexpected : operator.countsDays = false → expected'.instant? = expected.instant?)
    (hdays : operator.countsDays = true → expected'.number? = expected.number?)
    (hupper : upper'.instant? = upper.instant? ∧ upper'.isUnset = upper.isUnset) :
    answerOnDates operator actual' expected' upper' now = answerOnDates operator actual expected upper now := by
  cases operator with
  | greaterThan | after | lessThan | before =>
    unfold answerOnDates
    exact ordered_congr hactual (hexpected rfl)
  | on => exact sameDay_congr hactual (hexpected rfl)
  | between =>
    unfold answerOnDates withinDates
    rw [hactual, hexpected rfl, hupper.1, hupper.2]
  | inLastDays | notInLastDays => exact inLastDays_congr hactual (hdays rfl)
  | _ => rfl

/-- On operands the operators are those of conditions. -/
theorem apply_eq_answerOnDates {operator : Operator} (hmem : operator ∈ Operator.forDates) (raw : Value)
    (expected upper : Operand) (now : DateTime) :
    apply operator .date raw expected upper now =
      answerOnDates operator raw expected.toValue upper.toValue now := by
  have hstored : (stored .date raw).instant? = raw.instant? := instant?_stored .date raw
  have happly : apply operator .date raw expected upper now =
      answerOnDates operator (stored .date raw) expected.toValue upper.toValue now := by
    have hwithin := within_date (stored .date raw) expected.toValue upper
    cases operator with
    | between => exact hwithin
    | greaterThan | after | lessThan | before | on | inLastDays | notInLastDays => rfl
    | _ => exact absurd hmem (by decide)
  rw [happly]
  exact answerOnDates_congr hstored (fun _ => rfl) (fun _ => rfl) ⟨rfl, rfl⟩

end Comparison

/-! ## Conditions on dates -/

namespace Value

/-- The second value is the first one, or a date of the same instant. -/
def Redated (v w : Value) : Prop :=
  w = v ∨ ∃ instant, v.instant? = some instant ∧ w.instant? = some instant

variable {v w : Value}

theorem Redated.instant? (h : v.Redated w) : w.instant? = v.instant? := by
  rcases h with rfl | ⟨instant, hv, hw⟩
  · rfl
  · rw [hv, hw]

theorem Redated.isUnset (h : v.Redated w) : w.isUnset = v.isUnset := by
  rcases h with rfl | ⟨instant, hv, hw⟩
  · rfl
  · rw [isUnset_of_instant? hv, isUnset_of_instant? hw]

end Value

theorem Operator.forDates_onDates {operator : Operator} (hmem : operator ∈ forDates) :
    operator.onDates ∈ forDates := by
  have hall : ∀ operator ∈ forDates, operator.onDates ∈ forDates := by decide
  exact hall operator hmem

namespace Condition

/-- The conditions ask the same of their records but for dates of the same instants: in the field of the record, and as
value and upper bound, where the number of days of a condition on the last days is not replaced. -/
structure Redated (c c' : Condition) (record record' : Value) : Prop where
  field : c'.field = c.field
  operator : c'.operator = c.operator
  record : (record.resolve c.field).Redated (record'.resolve c.field)
  value : if c.operator.countsDays = true then c'.value = c.value else c.value.toValue.Redated c'.value.toValue
  value2 : c.value2.toValue.Redated c'.value2.toValue

/-- All the ways of giving a datetime denote its instant, and a condition on dates gets the same verdict with other
dates of the same instants, also where the day in UTC does not exist. -/
theorem verdict_redated :
    (∀ (d : DateTime) (v : Value), v.Shows d → v.instant? = some d.instant) ∧
      ∀ (catalogue : Catalogue) (now : DateTime) (record record' : Value) (c c' : Condition),
        catalogue.fieldType c.field = .date →
          (∃ operator ∈ Operator.forDates, c.operator = .known operator) → c.Redated c' record record' →
            c'.verdict catalogue now record' = c.verdict catalogue now record := by
  refine ⟨fun d v => Value.Shows.instant?, ?_⟩
  rintro catalogue now record record' c c' hdate ⟨operator, hmem, hoperator⟩ h
  have hadmitted' : c'.admitted catalogue = c.admitted catalogue := admitted_congr h.field h.operator
  cases hadmitted : c.admitted catalogue with
  | error refusal => rw [verdict, verdict, hadmitted', hadmitted]
  | ok canonical =>
    obtain ⟨known, hknown, hcanonical⟩ := admitted_eq_ok.1 hadmitted
    cases hoperator.symm.trans hknown
    have hforDates : canonical ∈ Operator.forDates := by
      obtain ⟨rfl, -⟩ := Catalogue.canonicalOperator?_eq_some.1 hcanonical
      rw [if_pos hdate]
      exact Operator.forDates_onDates hmem
    have hcounts : canonical.countsDays = c.operator.countsDays := by
      rw [hoperator]
      exact (Operator.takes_canonical hcanonical).2.2
    -- A number of days is not replaced; any other value is seen as an instant.
    have hvalue := h.value
    rw [← hcounts] at hvalue
    rw [verdict_of_admitted hadmitted, verdict_of_admitted (hadmitted'.trans hadmitted), h.field, hdate,
      Comparison.apply_eq_answerOnDates hforDates, Comparison.apply_eq_answerOnDates hforDates]
    refine congrArg Verdict.ofAnswer (Comparison.answerOnDates_congr h.record.instant? (fun hno => ?_)
      (fun hdays => ?_) ⟨h.value2.instant?, h.value2.isUnset⟩)
    · rw [hno, if_neg Bool.false_ne_true] at hvalue
      exact hvalue.instant?
    · rw [if_pos hdays] at hvalue
      rw [hvalue]

/-- Half an hour before the first day of the calendar, given in two ways, is before that day, which is given in two ways
as well, whereas the question whether it is on that day fails. -/
theorem verdict_redated_before_calendar :
    let early : DateTime := ⟨{ year := 1, month := 1, day := 1 }, 1800000000, some 3600000000, by decide, by decide⟩
    let record : Value := .ofFields [("created_at", .text "0001-01-01T01:00:00+01:30")]
    let record' : Value := .ofFields [("created_at", .datetime early)]
    let c (operator : Operator) : Condition := ⟨"c", "created_at", .known operator, .text "0001-01-01", .null⟩
    let c' (operator : Operator) : Condition := { c operator with value := .text "0001-01-01 00:00Z" }
    ((Value.text (early.textWith 'T')).Shows early ∧ (c .on).Redated (c' .on) record record' ∧
        (c .lessThan).Redated (c' .lessThan) record record') ∧
      (Value.text (early.textWith 'T')).instant? = some early.instant ∧
      (c' .on).verdict .contact default record' = (c .on).verdict .contact default record ∧
      (c' .lessThan).verdict .contact default record' = (c .lessThan).verdict .contact default record ∧
      (c .on).verdict .contact default record = .failed .dayOutOfRange ∧
      (c .lessThan).verdict .contact default record = .decided true := by
  intro early record record' c c'
  have hdate : Catalogue.contact.fieldType "created_at" = .date := by decide
  have hshows : (Value.text (early.textWith 'T')).Shows early := .text early (by decide)
  have hfirst : (record.resolve "created_at").instant? = some early.instant := by decide +kernel
  have hsecond : (record'.resolve "created_at").instant? = some early.instant := by decide +kernel
  have hday : (Value.text "0001-01-01").instant? = some 86400000000 := by decide +kernel
  have hday' : (Value.text "0001-01-01 00:00Z").instant? = some 86400000000 := by decide +kernel
  have hon : (c .on).Redated (c' .on) record record' :=
    ⟨rfl, rfl, .inr ⟨_, hfirst, hsecond⟩, .inr ⟨_, hday, hday'⟩, .inl rfl⟩
  have hless : (c .lessThan).Redated (c' .lessThan) record record' :=
    ⟨rfl, rfl, .inr ⟨_, hfirst, hsecond⟩, .inr ⟨_, hday, hday'⟩, .inl rfl⟩
  obtain ⟨hinstant, hverdict⟩ := verdict_redated
  have hsame : ∀ operator ∈ Operator.forDates, (c operator).Redated (c' operator) record record' →
      (c' operator).verdict .contact default record' = (c operator).verdict .contact default record :=
    fun operator hmem => hverdict .contact default record record' (c operator) (c' operator) hdate
      ⟨operator, hmem, rfl⟩
  exact ⟨⟨hshows, hon, hless⟩, hinstant early _ hshows, hsame .on (by decide) hon, hsame .lessThan (by decide) hless,
    by decide +kernel, by decide +kernel⟩

end Condition

end Segmentation
