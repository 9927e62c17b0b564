import Segmentation.Proofs.Evaluation.Instants
import Segmentation.Proofs.Rule.Checking

/-!
# Stored dates

A condition keeps a date that it is given as text.

* `Value.IsDate.check_eq_ok`: the text denotes the same moment as the date, and is no number either.
* `Condition.answer_given`: an operator on dates gives the same answer for the text as for the date itself.
* `Condition.stored_dates`: so a condition that was given dates is judged by these dates.
-/

namespace Segmentation

open Calendar

/-- The value is a date or a datetime. -/
def Value.IsDate : Value → Prop
  | date _ | datetime _ => True
  | _ => False

/-- What is stored for a date is a text of the same moment. -/
theorem Value.IsDate.check_eq_ok {v : Value} (hv : v.IsDate) :
    ∃ s moment, Operand.check v = .ok (.text s) ∧ v.moment? = some moment ∧ (text s).moment? = some moment ∧
      v.number? = .ok none ∧ (text s).number? = .ok none := by
  cases v with
  | date d =>
    exact ⟨_, _, rfl, rfl, moment?_dateText d, rfl, number?_of_isDateText (isDateText_text d)⟩
  | datetime d =>
    exact ⟨_, _, rfl, rfl, moment?_textWith d (by decide), rfl, number?_of_isDateText (isDateText_textWith d 'T')⟩
  | _ => exact hv.elim

namespace Condition

/-- An operand as it was given under a key, if that is a date; otherwise as it is stored. -/
def given (es : List (Value × Value)) (key : String) (o : Operand) : Value :=
  match Value.valueUnder? es key with
  | some (.date d) => .date d
  | some (.datetime d) => .datetime d
  | _ => o.toValue

variable {es : List (Value × Value)} {key : String} {o : Operand}

theorem given_cases (es : List (Value × Value)) (key : String) (o : Operand) :
    (∃ v, Value.valueUnder? es key = some v ∧ v.IsDate ∧ given es key o = v) ∨ given es key o = o.toValue := by
  unfold given
  split
  · rename_i d hd
    exact .inl ⟨.date d, hd, trivial, rfl⟩
  · rename_i d hd
    exact .inl ⟨.datetime d, hd, trivial, rfl⟩
  · exact .inr rfl

/-- A date as it was given and its text are the same instant, no numbers, and both present. -/
theorem given_alike (hcheck : ∀ v, Value.valueUnder? es key = some v → Operand.check v = .ok o) :
    (given es key o).instant? = o.toValue.instant? ∧ (given es key o).number? = o.toValue.number? ∧
      (given es key o).isUnset = o.toValue.isUnset := by
  rcases given_cases es key o with ⟨v, hentry, hdate, hgiven⟩ | hgiven
  · obtain ⟨s, moment, hs, hmoment, hsmoment, hnumber, hsnumber⟩ := hdate.check_eq_ok
    obtain rfl : o = .text s := Except.ok.inj ((hcheck v hentry).symm.trans hs)
    have hinstant : v.instant? = some moment.instant := congrArg (Option.map DateTime.instant) hmoment
    have hsinstant : (Value.text s).instant? = some moment.instant := congrArg (Option.map DateTime.instant) hsmoment
    rw [hgiven, Operand.toValue]
    refine ⟨hinstant.trans hsinstant.symm, hnumber.trans hsnumber.symm, ?_⟩
    rw [Value.isUnset_of_instant? hinstant, Value.isUnset_of_instant? hsinstant]
  · rw [hgiven]
    exact ⟨rfl, rfl, rfl⟩

variable {c : Condition} {supply : IdSupply}

/-- An operator on dates answers for the dates that a condition was given as it does for the operands that the
condition stores. -/
theorem answer_given (hread : ((check (.mapping es)).run supply).1 = .ok c) (operator : Operator) (actual : Value)
    (now : DateTime) :
    Comparison.answerOnDates operator actual c.value.toValue c.value2.toValue now =
      Comparison.answerOnDates operator actual (given es "value" c.value) (given es "value2" c.value2) now := by
  obtain ⟨-, -, -, hvalue, hvalue2⟩ := check_mapping_eq_ok.1 hread
  have hcheck : ∀ {key default o}, Schema.withDefault es key default Operand.check = .ok o →
      ∀ v, Value.valueUnder? es key = some v → Operand.check v = .ok o := by
    intro key default o h v hv
    rw [Schema.withDefault, hv] at h
    exact Checked.under_eq_ok.1 h
  obtain ⟨hinstant, hnumber, -⟩ := given_alike (hcheck hvalue)
  obtain ⟨hinstant2, -, hunset2⟩ := given_alike (hcheck hvalue2)
  exact Comparison.answerOnDates_congr rfl (fun _ => hinstant.symm) (fun _ => hnumber.symm)
    ⟨hinstant2.symm, hunset2.symm⟩

/-- A condition takes any date as an operand, and stores a text of the same moment. A condition on dates is judged by
the dates that it was given. -/
theorem stored_dates :
    (∀ v : Value, v.IsDate → ∃ s moment, v.moment? = some moment ∧ (Value.text s).moment? = some moment ∧
      ∀ es supply c, ((check (.mapping es)).run supply).1 = .ok c →
        ((check (.mapping (es ++ [(.text "value", v)]))).run supply).1 = .ok { c with value := .text s } ∧
          ((check (.mapping (es ++ [(.text "value2", v)]))).run supply).1 = .ok { c with value2 := .text s }) ∧
      ∀ es supply c, ((check (.mapping es)).run supply).1 = .ok c →
        ∀ catalogue operator, catalogue.fieldType c.field = .date → c.admitted catalogue = .ok operator →
          operator ∈ Operator.forDates → ∀ now record,
            c.verdict catalogue now record = .ofAnswer (Comparison.answerOnDates operator
              (record.resolve c.field) (given es "value" c.value) (given es "value2" c.value2) now) := by
  refine ⟨fun v hv => ?_, fun es supply c hread catalogue operator hdate hadmitted hmem now record => ?_⟩
  · obtain ⟨s, moment, hs, hmoment, hsmoment, -⟩ := hv.check_eq_ok
    exact ⟨s, moment, hmoment, hsmoment,
      fun es supply c hread => ⟨check_append_value hread hs, check_append_value2 hread hs⟩⟩
  · rw [verdict_of_admitted hadmitted, hdate, Comparison.apply_eq_answerOnDates hmem, answer_given hread]

/-- A range from a moment of the year 5, by a clock that is behind UTC and to the microsecond, to the last day of the
calendar. -/
theorem stored_dates_range :
    let first : DateTime := ⟨{ year := 5, month := 3, day := 9 }, 25689000007, some (-19800000000), by decide, by decide⟩
    let last : Date := { year := 9999, month := 12, day := 31 }
    let es : List (Value × Value) := [(.text "id", .text "c"), (.text "field", .text "created_at"),
      (.text "operator", .text "between"), (.text "value", .datetime first), (.text "value2", .date last)]
    let c : Condition := ⟨"c", "created_at", .known .between, .text "0005-03-09T07:08:09.000007-05:30",
      .text "9999-12-31"⟩
    let record : Value := .ofFields [("created_at", .text "0005-03-09T12:38:09.000007")]
    ((Value.datetime first).IsDate ∧ ((check (.mapping es)).run ⟨0⟩).1 = .ok c ∧
        Catalogue.contact.fieldType c.field = .date ∧ c.admitted .contact = .ok .between ∧
        .between ∈ Operator.forDates) ∧
      (∃ s moment, (Value.datetime first).moment? = some moment ∧ (Value.text s).moment? = some moment ∧
        ((check (.mapping (es ++ [(.text "value2", .datetime first)]))).run ⟨0⟩).1 = .ok { c with value2 := .text s }) ∧
      c.verdict .contact default record = .ofAnswer (Comparison.answerOnDates .between
        (record.resolve "created_at") (.datetime first) (.date last) default) ∧
      c.verdict .contact default record = .decided true := by
  intro first last es c record
  have hfirst : first.isoText = "0005-03-09T07:08:09.000007-05:30" := by decide +kernel
  have hlast : last.text = "9999-12-31" := by decide +kernel
  have hread : ((check (.mapping es)).run ⟨0⟩).1 = .ok c := check_mapping_eq_ok.2
    ⟨rfl, rfl, rfl, congrArg (fun s => Except.ok (Operand.text s)) hfirst,
      congrArg (fun s => Except.ok (Operand.text s)) hlast⟩
  have hdate : Catalogue.contact.fieldType c.field = .date := by decide
  have hadmitted : c.admitted .contact = .ok .between := by decide
  obtain ⟨htexts, hverdicts⟩ := stored_dates
  obtain ⟨s, moment, hmoment, hsmoment, hstored⟩ := htexts (.datetime first) trivial
  exact ⟨⟨trivial, hread, hdate, hadmitted, by decide⟩, ⟨s, moment, hmoment, hsmoment, (hstored es ⟨0⟩ c hread).2⟩,
    hverdicts es ⟨0⟩ c hread .contact .between hdate hadmitted (by decide) default record, by decide +kernel⟩

end Condition

end Segmentation
