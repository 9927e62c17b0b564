import Segmentation.Proofs.Editing.WholeNumbers
import Segmentation.Proofs.Evaluation.Expansion

/-!
# The order of numbers and of dates

* `Operator.order?`: how an operator compares two places on the scale of a field, if that is what it does.
* `Condition.holds_ordering`, `Condition.holds_range`: such a condition holds if the record's value and the operand
  have places, and these stand in the relation; a range needs both of its bounds.
* `Condition.compares_numbers`: two numbers stand in exactly one of the three relations, and the other two operators
  are negations.
* `Condition.orderings_coherent`: so it is for numbers, a range of dates holds between the dates before it and those
  after it, and nothing is said of values without a place.
-/

namespace Segmentation

open Calendar

/-- How an operator compares two places on the scale of a field, if that is what it does. -/
def Operator.order? : Operator → Option (Int → Int → Bool)
  | .greaterThan | .after => some fun a b => b < a
  | .lessThan | .before => some fun a b => a < b
  | .greaterOrEqual => some fun a b => b ≤ a
  | .lessOrEqual => some fun a b => a ≤ b
  | _ => none

/-- What stands for a moment is not blank. -/
theorem Operand.isBlank_of_moment {o : Operand} {d : DateTime} (h : o.toValue.moment? = some d) :
    o.isBlank = false := by
  cases o with
  | text s =>
    refine decide_eq_false fun hs => ?_
    rw [hs] at h
    cases h
  | null => cases h
  | _ => rfl

namespace Comparison

variable {operator : Operator} {relation : Int → Int → Bool} {type : FieldType} {actual expected : Value}

theorem apply_order (horder : operator.order? = some relation) (type : FieldType) (raw : Value)
    (expected upper : Operand) (now : DateTime) :
    apply operator type raw expected upper now = ordered type relation (stored type raw) expected.toValue := by
  unfold Operator.order? at horder
  split at horder <;> cases horder <;> rfl

/-- A number has its place on the line. -/
theorem rank_number {v : Value} {a : Rank} :
    rank .number v = .ok (some a) ↔ ∃ x, v.number? = .ok (some x) ∧ a = .number x := by
  unfold rank
  dsimp only
  rw [bind_eq_ok]
  constructor
  · rintro ⟨x?, hx, h⟩
    obtain ⟨x, rfl, rfl⟩ := Option.map_eq_some_iff.1 (Except.ok.inj h)
    exact ⟨x, hx, rfl⟩
  · rintro ⟨x, hx, rfl⟩
    exact ⟨some x, hx, rfl⟩

/-- A date has the place of its instant. -/
theorem rank_date {v : Value} {a : Rank} :
    rank .date v = .ok (some a) ↔ ∃ d, v.moment? = some d ∧ a = .moment d := by
  rw [rank, Except.ok.injEq, Option.map_eq_some_iff]
  exact ⟨fun ⟨d, hd, h⟩ => ⟨d, hd, h.symm⟩, fun ⟨d, hd, h⟩ => ⟨d, hd, h.symm⟩⟩

/-- Dates are compared by their instants. -/
theorem ordered_date {relation : Int → Int → Bool} :
    ordered .date relation actual expected = .ok true ↔
      ∃ d e, actual.moment? = some d ∧ expected.moment? = some e ∧ relation d.instant e.instant = true := by
  rw [ordered_eq_ok]
  constructor
  · rintro ⟨a, b, ha, hb, h⟩
    obtain ⟨d, hd, rfl⟩ := rank_date.1 ha
    obtain ⟨e, he, rfl⟩ := rank_date.1 hb
    exact ⟨d, e, hd, he, h⟩
  · rintro ⟨d, e, hd, he, h⟩
    exact ⟨_, _, rank_date.2 ⟨d, hd, rfl⟩, rank_date.2 ⟨e, he, rfl⟩, h⟩

end Comparison

namespace Condition

/-- The condition with another operator. -/
def asking (operator : Operator) (c : Condition) : Condition :=
  { c with operator := .known operator }

/-- The value of the record that the condition looks at; the blank value of the field's type if there is none. -/
def fieldValue (catalogue : Catalogue) (record : Value) (c : Condition) : Value :=
  Comparison.stored (catalogue.fieldType c.field) (record.resolve c.field)

variable {catalogue : Catalogue} {c : Condition} {operator : Operator} {relation : Int → Int → Bool}
  {now : DateTime} {record : Value}

/-! ## Orderings and ranges -/

/-- The field allows the operator under this name. -/
def Asks (catalogue : Catalogue) (c : Condition) (operator : Operator) : Prop :=
  catalogue.canonicalOperator? c.field operator = some operator

theorem asks_of_mem (hmem : operator ∈ catalogue.operatorsFor c.field)
    (honDates : catalogue.fieldType c.field = .date → operator.onDates = operator) : c.Asks catalogue operator :=
  Catalogue.canonicalOperator?_of_mem honDates hmem

theorem holds_asking (hasks : c.Asks catalogue operator) :
    (c.asking operator).holds catalogue now record = true ↔
      Comparison.apply operator (catalogue.fieldType c.field) (record.resolve c.field) c.value c.value2 now =
        .ok true :=
  holds_eq_true (c := c.asking operator) rfl hasks

/-- An ordering holds if both values have places, and these stand in the relation. -/
theorem holds_ordering (hasks : c.Asks catalogue operator) (horder : operator.order? = some relation) :
    (c.asking operator).holds catalogue now record = true ↔
      Comparison.ordered (catalogue.fieldType c.field) relation (c.fieldValue catalogue record) c.value.toValue =
        .ok true := by
  rw [holds_asking hasks, Comparison.apply_order horder, fieldValue]

/-- A range holds if the value is not below its lower bound and not above its upper one. -/
theorem holds_range (hasks : c.Asks catalogue .between) :
    (c.asking .between).holds catalogue now record = true ↔
      Comparison.ordered (catalogue.fieldType c.field) (fun a b => b ≤ a) (c.fieldValue catalogue record)
          c.value.toValue = .ok true ∧
        (c.value2.isBlank = false →
          Comparison.ordered (catalogue.fieldType c.field) (fun a b => a ≤ b) (c.fieldValue catalogue record)
            c.value2.toValue = .ok true) := by
  rw [holds_asking hasks, ← Comparison.within_eq_ok]
  rfl

/-! ## Numbers -/

/-- Two numbers are compared by their places on the line. -/
theorem holds_relation (hasks : c.Asks catalogue operator) (hnumber : catalogue.fieldType c.field = .number)
    (hrelation : operator.relation? = some relation) {x y : Binary64}
    (hx : (c.fieldValue catalogue record).number? = .ok (some x)) (hy : c.value.toValue.number? = .ok (some y)) :
    (c.asking operator).holds catalogue now record = relation x.position y.position := by
  have hstored : (Comparison.stored .number (record.resolve c.field)).number? = (Except.ok x).map some := by
    rw [fieldValue, hnumber] at hx
    exact hx
  rw [Bool.eq_iff_iff, holds_asking hasks, hnumber, Comparison.apply_relation hrelation hstored hy]
  simp [Except.map]

/-- Of two numbers one is less than the other or they are equal. -/
theorem compares_numbers (hasks : ∀ operator ∈ Operator.standard .number, c.Asks catalogue operator)
    (hnumber : catalogue.fieldType c.field = .number) {x y : Binary64}
    (hx : (c.fieldValue catalogue record).number? = .ok (some x)) (hy : c.value.toValue.number? = .ok (some y)) :
    (∃! operator, operator ∈ [.lessThan, .equals, .greaterThan] ∧
        (c.asking operator).holds catalogue now record = true) ∧
      (c.asking .greaterOrEqual).holds catalogue now record = !(c.asking .lessThan).holds catalogue now record ∧
      (c.asking .lessOrEqual).holds catalogue now record = !(c.asking .greaterThan).holds catalogue now record := by
  have hholds : ∀ operator ∈ Operator.standard .number, ∀ relation, operator.relation? = some relation →
      (c.asking operator).holds catalogue now record = relation x.position y.position :=
    fun operator hmem relation hrelation => holds_relation (hasks operator hmem) hnumber hrelation hx hy
  have hless := hholds .lessThan (by decide) _ rfl
  have hequal := hholds .equals (by decide) _ rfl
  have hgreater := hholds .greaterThan (by decide) _ rfl
  refine ⟨?_, ?_, ?_⟩
  · have hunique : ∀ operator ∈ [Operator.lessThan, .equals, .greaterThan],
        (c.asking operator).holds catalogue now record = true →
          operator = if x.position < y.position then .lessThan
            else if x.position = y.position then .equals else .greaterThan := by
      simp only [List.forall_mem_cons, hless, hequal, hgreater, decide_eq_true_eq]
      refine ⟨fun h => (if_pos h).symm, fun h => ?_, fun h => ?_, fun operator h => by cases h⟩
      · rw [if_neg (by omega), if_pos h]
      · rw [if_neg (by omega), if_neg (by omega)]
    refine ⟨_, ⟨?_, ?_⟩, fun operator h => hunique operator h.1 h.2⟩
    · split_ifs <;> decide
    · split_ifs with hlt heq
      · rw [hless, decide_eq_true hlt]
      · rw [hequal, decide_eq_true heq]
      · rw [hgreater, decide_eq_true (by omega)]
  · rw [hholds .greaterOrEqual (by decide) _ rfl, hless, ← decide_not, decide_eq_decide]
    omega
  · rw [hholds .lessOrEqual (by decide) _ rfl, hgreater, ← decide_not, decide_eq_decide]
    omega

/-! ## Values without a place -/

/-- An ordering or a range holds only if the record's value and the operand have places. -/
theorem exists_rank_of_holds (hasks : c.Asks catalogue operator)
    (hoperator : operator.order?.isSome = true ∨ operator = .between)
    (hholds : (c.asking operator).holds catalogue now record = true) :
    (∃ a, Comparison.rank (catalogue.fieldType c.field) (c.fieldValue catalogue record) = .ok (some a)) ∧
      ∃ b, Comparison.rank (catalogue.fieldType c.field) c.value.toValue = .ok (some b) := by
  have hordered : ∃ relation, Comparison.ordered (catalogue.fieldType c.field) relation
      (c.fieldValue catalogue record) c.value.toValue = .ok true := by
    rcases hoperator with horder | rfl
    · obtain ⟨relation, horder⟩ := Option.isSome_iff_exists.1 horder
      exact ⟨relation, (holds_ordering hasks horder).1 hholds⟩
    · exact ⟨_, ((holds_range hasks).1 hholds).1⟩
  obtain ⟨relation, hordered⟩ := hordered
  obtain ⟨a, b, ha, hb, -⟩ := Comparison.ordered_eq_ok.1 hordered
  exact ⟨⟨a, ha⟩, b, hb⟩

/-- If one of the two values is no number, no ordering and no range of numbers holds. -/
theorem not_holds_of_no_number (hasks : c.Asks catalogue operator) (hnumber : catalogue.fieldType c.field = .number)
    (hoperator : operator.order?.isSome = true ∨ operator = .between)
    (hunread : (∀ x, (c.fieldValue catalogue record).number? ≠ .ok (some x)) ∨
      ∀ y, c.value.toValue.number? ≠ .ok (some y)) :
    (c.asking operator).holds catalogue now record = false := by
  rw [← Bool.not_eq_true]
  intro hholds
  obtain ⟨⟨a, ha⟩, b, hb⟩ := exists_rank_of_holds hasks hoperator hholds
  rw [hnumber] at ha hb
  obtain ⟨x, hx, -⟩ := Comparison.rank_number.1 ha
  obtain ⟨y, hy, -⟩ := Comparison.rank_number.1 hb
  exact hunread.elim (fun h => h x hx) fun h => h y hy

/-- A range with an upper bound that has no place holds for no record. -/
theorem not_holds_between_of_no_rank (hasks : c.Asks catalogue .between) (hbound : c.value2.isBlank = false)
    (hunread : ∀ b, Comparison.rank (catalogue.fieldType c.field) c.value2.toValue ≠ .ok (some b)) :
    (c.asking .between).holds catalogue now record = false := by
  rw [← Bool.not_eq_true, holds_range hasks]
  rintro ⟨-, habove⟩
  obtain ⟨-, b, -, hb, -⟩ := Comparison.ordered_eq_ok.1 (habove hbound)
  exact hunread b hb

/-! ## Dates -/

section Dates

variable (hasks : ∀ operator ∈ Operator.standard .date, c.Asks catalogue operator)
  (hdate : catalogue.fieldType c.field = .date)

include hasks hdate

/-- Dates before and after the operand are told apart by their instants. -/
theorem holds_before_after (operator : Operator) {relation : Int → Int → Bool}
    (hmem : operator ∈ [.before, .after]) (horder : operator.order? = some relation) :
    (c.asking operator).holds catalogue now record = true ↔
      ∃ d e, (record.resolve c.field).moment? = some d ∧ c.value.toValue.moment? = some e ∧
        relation d.instant e.instant = true := by
  have hstandard : ∀ operator ∈ [Operator.before, .after], operator ∈ Operator.standard .date := by decide
  rw [holds_ordering (hasks _ (hstandard _ hmem)) horder, hdate, Comparison.ordered_date, fieldValue,
    Comparison.moment?_stored]

theorem not_before_and_after :
    ¬((c.asking .before).holds catalogue now record = true ∧ (c.asking .after).holds catalogue now record = true) := by
  rintro ⟨hbefore, hafter⟩
  obtain ⟨d, e, hd, he, hlt⟩ := (holds_before_after hasks hdate .before (by decide) rfl).1 hbefore
  obtain ⟨d', e', hd', he', hgt⟩ := (holds_before_after hasks hdate .after (by decide) rfl).1 hafter
  cases hd.symm.trans hd'
  cases he.symm.trans he'
  rw [decide_eq_true_eq] at hlt hgt
  omega

/-- A range of dates with two bounds in terms of instants. -/
theorem holds_between_dates (hbound : c.value2.isBlank = false) :
    (c.asking .between).holds catalogue now record = true ↔
      ∃ d lo hi, (record.resolve c.field).moment? = some d ∧ c.value.toValue.moment? = some lo ∧
        c.value2.toValue.moment? = some hi ∧ lo.instant ≤ d.instant ∧ d.instant ≤ hi.instant := by
  rw [holds_range (hasks _ (by decide)), hdate, Comparison.ordered_date, Comparison.ordered_date, fieldValue,
    Comparison.moment?_stored]
  simp only [hbound, true_imp_iff, decide_eq_true_eq]
  constructor
  · rintro ⟨⟨d, lo, hd, hlo, hlow⟩, d', hi, hd', hhi, hhigh⟩
    cases hd.symm.trans hd'
    exact ⟨d, lo, hi, hd, hlo, hhi, hlow, hhigh⟩
  · rintro ⟨d, lo, hi, hd, hlo, hhi, hlow, hhigh⟩
    exact ⟨⟨d, lo, hd, hlo, hlow⟩, d, hi, hd, hhi, hhigh⟩

/-- Between two dates is what is neither before the first nor after the second one. -/
theorem holds_between_iff {d lo hi : DateTime} (hd : (record.resolve c.field).moment? = some d)
    (hlo : c.value.toValue.moment? = some lo) (hhi : c.value2.toValue.moment? = some hi) :
    (c.asking .between).holds catalogue now record = true ↔
      (c.asking .before).holds catalogue now record = false ∧
        ({ c with value := c.value2 }.asking .after).holds catalogue now record = false := by
  have hafter : ({ c with value := c.value2 }.asking .after).holds catalogue now record = true ↔ _ :=
    holds_before_after (c := { c with value := c.value2 }) hasks hdate .after (by decide) rfl
  rw [← Bool.not_eq_true, ← Bool.not_eq_true, hafter, holds_before_after hasks hdate .before (by decide) rfl,
    holds_between_dates hasks hdate (Operand.isBlank_of_moment hhi)]
  simp [hd, hlo, hhi]

/-- A range of dates with a bound that is no date holds for no record. -/
theorem not_holds_between_of_no_date (hunread : c.value.toValue.moment? = none ∨
      (c.value2.isBlank = false ∧ c.value2.toValue.moment? = none)) :
    (c.asking .between).holds catalogue now record = false := by
  have hbetween : c.Asks catalogue .between := hasks _ (by decide)
  have hrank : ∀ {v : Value} {b}, Comparison.rank .date v = .ok (some b) → v.moment? ≠ none := by
    intro v b hb hnone
    obtain ⟨d, hd, -⟩ := Comparison.rank_date.1 hb
    cases hnone.symm.trans hd
  rcases hunread with hnone | ⟨hbound, hnone⟩
  · rw [← Bool.not_eq_true]
    intro hholds
    obtain ⟨-, b, hb⟩ := exists_rank_of_holds hbetween (.inr rfl) hholds
    rw [hdate] at hb
    exact hrank hb hnone
  · refine not_holds_between_of_no_rank hbetween hbound fun b hb => ?_
    rw [hdate] at hb
    exact hrank hb hnone

end Dates

/-! ## Fields with the standard operators -/

/-- On a number field with the standard operators two numbers stand in exactly one of the relations less than, equal
and greater than, and the two other comparisons are negations of these. With a value that is no number no ordering and
no range holds, and neither does a range with an upper bound that is no number. On a date field no date is before and
after another one, a range holds for the dates that are neither before its lower bound nor after its upper one, and
one with a bound that is no date holds for no record. -/
theorem orderings_coherent
    (hallowed : ∀ operator ∈ Operator.standard (catalogue.fieldType c.field),
      operator ∈ catalogue.operatorsFor c.field) (now : DateTime) (record : Value) :
    (catalogue.fieldType c.field = .number →
      (∀ x y, (c.fieldValue catalogue record).number? = .ok (some x) → c.value.toValue.number? = .ok (some y) →
        (∃! operator, operator ∈ [.lessThan, .equals, .greaterThan] ∧
          (c.asking operator).holds catalogue now record = true) ∧
        (c.asking .greaterOrEqual).holds catalogue now record = !(c.asking .lessThan).holds catalogue now record ∧
        (c.asking .lessOrEqual).holds catalogue now record = !(c.asking .greaterThan).holds catalogue now record) ∧
      ((∀ x, (c.fieldValue catalogue record).number? ≠ .ok (some x)) ∨
          (∀ y, c.value.toValue.number? ≠ .ok (some y)) →
        ∀ operator ∈ [.lessThan, .greaterThan, .lessOrEqual, .greaterOrEqual, .between],
          (c.asking operator).holds catalogue now record = false) ∧
      (c.value2.isBlank = false ∧ (∀ y, c.value2.toValue.number? ≠ .ok (some y)) →
        (c.asking .between).holds catalogue now record = false)) ∧
    (catalogue.fieldType c.field = .date →
      ¬((c.asking .before).holds catalogue now record = true ∧
        (c.asking .after).holds catalogue now record = true) ∧
      (∀ d lo hi, (record.resolve c.field).moment? = some d → c.value.toValue.moment? = some lo →
        c.value2.toValue.moment? = some hi →
        ((c.asking .between).holds catalogue now record = true ↔
          (c.asking .before).holds catalogue now record = false ∧
            ({ c with value := c.value2 }.asking .after).holds catalogue now record = false)) ∧
      (c.value.toValue.moment? = none ∨ (c.value2.isBlank = false ∧ c.value2.toValue.moment? = none) →
        (c.asking .between).holds catalogue now record = false)) := by
  refine ⟨fun hnumber => ?_, fun hdate => ?_⟩
  · have hasks : ∀ operator ∈ Operator.standard .number, c.Asks catalogue operator := by
      rw [hnumber] at hallowed
      exact fun operator hmem => asks_of_mem (hallowed operator hmem) fun hdate => by cases hnumber.symm.trans hdate
    refine ⟨fun x y => compares_numbers hasks hnumber, fun hunread operator hmem => ?_, fun hunread => ?_⟩
    · have hkinds : ∀ operator ∈ [Operator.lessThan, .greaterThan, .lessOrEqual, .greaterOrEqual, .between],
          operator ∈ Operator.standard .number ∧ (operator.order?.isSome = true ∨ operator = .between) := by decide
      obtain ⟨hstandard, hoperator⟩ := hkinds operator hmem
      exact not_holds_of_no_number (hasks operator hstandard) hnumber hoperator hunread
    · refine not_holds_between_of_no_rank (hasks _ (by decide)) hunread.1 fun b hb => ?_
      rw [hnumber] at hb
      obtain ⟨y, hy, -⟩ := Comparison.rank_number.1 hb
      exact hunread.2 y hy
  · have hasks : ∀ operator ∈ Operator.standard .date, c.Asks catalogue operator := by
      rw [hdate] at hallowed
      have honDates : ∀ operator ∈ Operator.standard .date, operator.onDates = operator := by decide
      exact fun operator hmem => asks_of_mem (hallowed operator hmem) fun _ => honDates operator hmem
    exact ⟨not_before_and_after hasks hdate, fun d lo hi => holds_between_iff hasks hdate,
      not_holds_between_of_no_date hasks hdate⟩

/-- A missing score counts as zero and is compared with infinity. Half past one on a clock that is ahead of UTC by as
much is the first moment of a range. -/
theorem orderings_coherent_contact :
    let score : Condition := ⟨"c", "lead_score", .known .equals, .text " inf ", .null⟩
    let date : Condition := ⟨"c", "created_at", .known .on, .text "2026-01-01", .text "2026-01-31T23:59:59Z"⟩
    let record : Value := .ofFields [("created_at", .text "2026-01-01T01:30:00+01:30")]
    ((∀ key, ∀ operator ∈ Operator.standard (Catalogue.contact.fieldType key),
        operator ∈ Catalogue.contact.operatorsFor key) ∧
      Catalogue.contact.fieldType score.field = .number ∧ Catalogue.contact.fieldType date.field = .date ∧
      (score.fieldValue .contact record).number? = .ok (some (.zero false)) ∧
      score.value.toValue.number? = .ok (some (.infinite false))) ∧
    (∃! operator, operator ∈ [.lessThan, .equals, .greaterThan] ∧
      (score.asking operator).holds .contact default record = true) ∧
    ((date.asking .before).holds .contact default record = false ∧
      ({ date with value := date.value2 }.asking .after).holds .contact default record = false ∧
      (date.asking .between).holds .contact default record = true) := by
  intro score date record
  have hallowed : ∀ key, ∀ operator ∈ Operator.standard (Catalogue.contact.fieldType key),
      operator ∈ Catalogue.contact.operatorsFor key := by
    intro key operator hmem
    rwa [Catalogue.operatorsFor, Catalogue.contact_operatorsForType]
  have hnumber : Catalogue.contact.fieldType score.field = .number := by decide
  have hdate : Catalogue.contact.fieldType date.field = .date := by decide
  have hx : (score.fieldValue .contact record).number? = .ok (some (.zero false)) := by decide +kernel
  have hy : score.value.toValue.number? = .ok (some (.infinite false)) := by decide +kernel
  obtain ⟨hnumbers, -⟩ := orderings_coherent (hallowed score.field) default record
  obtain ⟨-, hdates⟩ := orderings_coherent (hallowed date.field) default record
  have hfirst : (Value.text "2026-01-01").moment? =
      some ⟨{ year := 2026, month := 1, day := 1 }, 0, some 0, by decide, by decide⟩ := by decide +kernel
  have hlast : (Value.text "2026-01-31T23:59:59Z").moment? =
      some ⟨{ year := 2026, month := 1, day := 31 }, 86399000000, some 0, by decide, by decide⟩ := by decide +kernel
  have hmoment : (record.resolve date.field).moment? =
      some ⟨{ year := 2026, month := 1, day := 1 }, 5400000000, some 5400000000, by decide, by decide⟩ := by
    decide +kernel
  have hbefore : (date.asking .before).holds .contact default record = false := by decide +kernel
  have hafter : ({ date with value := date.value2 }.asking .after).holds .contact default record = false := by
    decide +kernel
  exact ⟨⟨hallowed, hnumber, hdate, hx, hy⟩, ((hnumbers hnumber).1 _ _ hx hy).1, hbefore, hafter,
    ((hdates hdate).2.1 _ _ _ hmoment hfirst hlast).2 ⟨hbefore, hafter⟩⟩

end Condition

end Segmentation
