import Segmentation.Proofs.Catalogue.Operators
import Segmentation.Proofs.Evaluation.Verdict
import Segmentation.Proofs.Outcome

/-!
# With which causes an operator fails

* `FailsOnly`: a computation that fails, if at all, with one of some causes.
* `Value.form_failsOnly`, `Value.number?_failsOnly`: no text for too long an integer, no number for too large an
  integer and for a decimal that signals.
* `Operator.causes`: the causes for which an operator can fail on a field of a type.
* `Comparison.apply_failsOnly`, `Operator.mem_causes_iff`: it fails for no other ones, and for each of these on
  some values.
-/

namespace Segmentation

open Calendar

/-- The computation fails for no other causes than the given ones. -/
def FailsOnly {α : Type} (causes : List Failure) (x : Except Failure α) : Prop :=
  ∀ cause, x = .error cause → cause ∈ causes

namespace FailsOnly

variable {α β : Type} {causes causes' : List Failure} {x : Except Failure α}

theorem ok (a : α) : FailsOnly causes (.ok a : Except Failure α) := by
  intro cause h
  cases h

theorem error {cause : Failure} (h : cause ∈ causes) : FailsOnly causes (.error cause : Except Failure α) := by
  intro cause' h'
  cases h'
  exact h

theorem mono (hx : FailsOnly causes x) (hsub : causes ⊆ causes') : FailsOnly causes' x :=
  fun cause h => hsub (hx cause h)

/-- A computation in steps fails for the causes of its steps. -/
theorem bind {next : α → Except Failure β} (hx : FailsOnly causes x)
    (hnext : ∀ a, FailsOnly causes (next a)) : FailsOnly causes (x >>= next) := by
  cases x with
  | error cause => exact error (hx cause rfl)
  | ok a => exact hnext a

theorem map (hx : FailsOnly causes x) (f : α → β) : FailsOnly causes (x.map f) := by
  cases x with
  | error cause => exact error (hx cause rfl)
  | ok a => exact ok (f a)

theorem mapM {f : α → Except Failure β} (hf : ∀ a, FailsOnly causes (f a)) (xs : List α) :
    FailsOnly causes (xs.mapM f) := by
  induction xs with
  | nil => exact ok []
  | cons a xs ih =>
    rw [List.mapM_cons]
    exact (hf a).bind fun _ => ih.bind fun _ => ok _

end FailsOnly

/-! ## Reading a value -/

theorem Integer.text_failsOnly (n : Int) : FailsOnly [.integerTooLong] (text n) := by
  unfold text
  split
  · exact .ok _
  · exact .error (by decide)

namespace Value

mutual

/-- Only too long an integer keeps a value from being written. -/
theorem form_failsOnly : ∀ v : Value, FailsOnly [.integerTooLong] v.form
  | null | bool _ | float _ | decimal _ | text _ | bytes _ | date _ | datetime _ => .ok _
  | int n => Integer.text_failsOnly n
  | collection _ items => (forms_failsOnly items).bind fun _ => .ok _
  | mapping entries => (entryForms_failsOnly entries).bind fun _ => .ok _
  | record fields => (fieldForms_failsOnly fields).bind fun _ => .ok _

theorem forms_failsOnly : ∀ vs : List Value, FailsOnly [.integerTooLong] (forms vs)
  | [] => .ok _
  | v :: vs => (form_failsOnly v).bind fun _ => (forms_failsOnly vs).bind fun _ => .ok _

theorem entryForms_failsOnly : ∀ es : List (Value × Value), FailsOnly [.integerTooLong] (entryForms es)
  | [] => .ok _
  | (k, v) :: es => (form_failsOnly k).bind fun _ => (form_failsOnly v).bind fun _ =>
      (entryForms_failsOnly es).bind fun _ => .ok _

theorem fieldForms_failsOnly : ∀ fs : List (String × Value), FailsOnly [.integerTooLong] (fieldForms fs)
  | [] => .ok _
  | (_, v) :: fs => (form_failsOnly v).bind fun _ => (fieldForms_failsOnly fs).bind fun _ => .ok _

end

theorem toText_failsOnly (v : Value) : FailsOnly [.integerTooLong] v.toText := by
  cases v with
  | text s => exact .ok s
  | decimal d => exact .ok _
  | date d => exact .ok _
  | datetime d => exact .ok _
  | _ => exact form_failsOnly _

theorem comparisonText_failsOnly (v : Value) : FailsOnly [.integerTooLong] v.comparisonText := by
  unfold comparisonText
  split
  · exact .ok _
  · exact .ok _
  · split
    · exact Integer.text_failsOnly _
    · exact toText_failsOnly _
  · exact toText_failsOnly _

theorem foldedText_failsOnly (v : Value) : FailsOnly [.integerTooLong] v.foldedText :=
  v.comparisonText_failsOnly.map _

theorem number?_failsOnly (v : Value) : FailsOnly [.numberTooLarge, .signallingNan] v.number? := by
  cases v with
  | int n =>
    rw [number?]
    split
    · exact .ok _
    · exact .error (by decide)
  | decimal d =>
    rw [number?]
    split
    · exact .ok _
    · exact .error (by decide)
  | _ => exact .ok _

end Value

/-- Operands are no decimals. -/
theorem Operand.number?_failsOnly (o : Operand) : FailsOnly [.numberTooLarge] o.toValue.number? := by
  cases o with
  | int n =>
    rw [toValue, Value.number?]
    split
    · exact .ok _
    · exact .error (by decide)
  | _ => exact .ok _

/-! ## Applying an operator -/

/-- The causes for which a value may have no place on the scale of a type: dates have one or none. -/
def FieldType.rankCauses (type : FieldType) : List Failure :=
  if type = .date then [] else [.numberTooLarge, .signallingNan]

/-- The causes for which a value cannot be compared for equality on a field of a type. -/
def FieldType.equalityCauses (type : FieldType) : List Failure :=
  if type = .number then [.numberTooLarge, .signallingNan, .integerTooLong] else [.integerTooLong]

/-- The causes for which the operator can fail on a field of a type. -/
def Operator.causes (operator : Operator) (type : FieldType) : List Failure :=
  match operator with
  | isEmpty | isNotEmpty | isTrue | isFalse => []
  | equals | notEquals => type.equalityCauses
  | contains | notContains | startsWith | endsWith | containsAll | isIn | notIn => [.integerTooLong]
  | greaterThan | lessThan | greaterOrEqual | lessOrEqual | after | before | between => type.rankCauses
  | on => [.dayOutOfRange]
  | inLastDays | notInLastDays => [.numberTooLarge, .spanTooLong, .dayOutOfRange]

namespace Comparison

variable {type : FieldType} {now : DateTime}

theorem equal_failsOnly (actual expected : Value) :
    FailsOnly type.equalityCauses (equal type actual expected) := by
  have htext : ∀ v : Value, FailsOnly type.equalityCauses v.comparisonText := fun v =>
    v.comparisonText_failsOnly.mono (by cases type <;> decide)
  have htexts : FailsOnly type.equalityCauses
      (do return decide ((← actual.comparisonText) = (← expected.comparisonText))) :=
    (htext actual).bind fun _ => (htext expected).bind fun _ => .ok _
  cases type with
  | number =>
    have hnumber : ∀ v : Value, FailsOnly FieldType.number.equalityCauses v.number? := fun v =>
      v.number?_failsOnly.mono (by decide)
    refine .bind (hnumber actual) fun left => .bind (hnumber expected) fun right => ?_
    cases left with
    | none => exact htexts
    | some x =>
      cases right with
      | none => exact htexts
      | some y => exact .ok _
  | _ => exact htexts

theorem anyFolded_failsOnly (needle : String) (vs : List Value) :
    FailsOnly [.integerTooLong] (holds.anyFolded needle vs) := by
  induction vs with
  | nil => exact .ok false
  | cons v vs ih =>
    rw [holds.anyFolded]
    refine v.foldedText_failsOnly.bind fun s => ?_
    split
    · exact .ok true
    · exact ih

theorem holds_failsOnly (actual expected : Value) :
    FailsOnly [.integerTooLong] (holds type actual expected) := by
  unfold holds
  refine expected.foldedText_failsOnly.bind fun needle => ?_
  split
  · exact anyFolded_failsOnly needle _
  · exact anyFolded_failsOnly needle _
  · exact actual.foldedText_failsOnly.bind fun _ => .ok _

theorem allAmong_failsOnly (present : List String) (vs : List Value) :
    FailsOnly [.integerTooLong] (holdsAll.allAmong present vs) := by
  induction vs with
  | nil => exact .ok true
  | cons v vs ih =>
    rw [holdsAll.allAmong]
    refine v.foldedText_failsOnly.bind fun s => ?_
    split
    · exact ih
    · exact .ok false

theorem holdsAll_failsOnly (actual expected : Value) :
    FailsOnly [.integerTooLong] (holdsAll actual expected) :=
  .bind (.mapM Value.foldedText_failsOnly _) fun present => allAmong_failsOnly present _

theorem isAmong_failsOnly (actual expected : Value) :
    FailsOnly [.integerTooLong] (isAmong actual expected) :=
  .bind actual.comparisonText_failsOnly fun _ => .bind (.mapM Value.comparisonText_failsOnly _) fun _ => .ok _

/-- On dates, a value has a rank or none; otherwise it is read as a number. -/
theorem rank_failsOnly (v : Value) : FailsOnly type.rankCauses (rank type v) := by
  cases type with
  | date => exact .ok _
  | _ => exact v.number?_failsOnly.bind fun _ => .ok _

theorem ordered_failsOnly (relation : Int → Int → Bool) (actual expected : Value) :
    FailsOnly type.rankCauses (ordered type relation actual expected) :=
  .bind (rank_failsOnly actual) fun _ => .bind (rank_failsOnly expected) fun _ => .ok _

theorem within_failsOnly (actual low : Value) (high : Operand) :
    FailsOnly type.rankCauses (within type actual low high) := by
  unfold within
  refine .bind (rank_failsOnly actual) fun value => .bind (rank_failsOnly low) fun lower => ?_
  cases value with
  | none => exact .ok false
  | some v =>
    cases lower with
    | none => exact .ok false
    | some l =>
      dsimp only
      split
      · exact .ok _
      · refine .bind (rank_failsOnly high.toValue) fun upper => ?_
        cases upper <;> exact .ok _

theorem utcDay_failsOnly (d : DateTime) : FailsOnly [.dayOutOfRange] (utcDay d) := by
  unfold utcDay
  split
  · exact .ok _
  · exact .error (by decide)

theorem sameDay_failsOnly (actual expected : Value) :
    FailsOnly [.dayOutOfRange] (sameDay actual expected) := by
  unfold sameDay
  split
  · exact (utcDay_failsOnly _).bind fun _ => (utcDay_failsOnly _).bind fun _ => .ok _
  · exact .ok false

theorem inLastDays_failsOnly (recent : Bool) (actual : Value) (expected : Operand) :
    FailsOnly [.numberTooLarge, .spanTooLong, .dayOutOfRange]
      (inLastDays recent now actual expected.toValue) := by
  unfold inLastDays
  refine .bind (expected.number?_failsOnly.mono (by decide)) fun days => ?_
  split
  · split
    · exact .error (by decide)
    · split
      · exact .error (by decide)
      · exact .ok _
  · exact .ok false

/-- An operator fails for no other causes than its own. -/
theorem apply_failsOnly (operator : Operator) (type : FieldType) (raw : Value) (expected upper : Operand)
    (now : DateTime) : FailsOnly (operator.causes type) (apply operator type raw expected upper now) := by
  cases operator with
  | isEmpty | isNotEmpty | isTrue | isFalse => exact .ok _
  | equals => exact equal_failsOnly _ _
  | notEquals => exact (equal_failsOnly _ _).bind fun _ => .ok _
  | contains => exact holds_failsOnly _ _
  | notContains => exact (holds_failsOnly _ _).bind fun _ => .ok _
  | startsWith | endsWith =>
    exact (Value.foldedText_failsOnly _).bind fun _ => (Value.foldedText_failsOnly _).bind fun _ => .ok _
  | containsAll => exact holdsAll_failsOnly _ _
  | isIn => exact isAmong_failsOnly _ _
  | notIn => exact (isAmong_failsOnly _ _).bind fun _ => .ok _
  | greaterThan | lessThan | greaterOrEqual | lessOrEqual | after | before =>
    rw [apply]
    exact ordered_failsOnly _ _ _
  | between => exact within_failsOnly _ _ _
  | on => exact sameDay_failsOnly _ _
  | inLastDays | notInLastDays => exact inLastDays_failsOnly _ _ _

end Comparison

/-! ## Each cause occurs -/

theorem Verdict.ofAnswer_eq_failed {answer : Except Failure Bool} {cause : Failure} :
    ofAnswer answer = .failed cause ↔ answer = .error cause := by
  cases answer <;> simp [ofAnswer]

/-- A stored value and an operand that cannot be read for the cause. -/
def Failure.trigger : Failure → Value × Operand
  | integerTooLong => (.collection .list [.int (Nat.pow 10 4300)], .null)
  | numberTooLarge => (.int (Nat.pow 10 400), .int (Nat.pow 10 400))
  | signallingNan => (.decimal (.nan false true 0), .null)
  | spanTooLong => (.text "2026-10-17", .int 1000000000)
  -- The operand is a day as well as a number of days.
  | dayOutOfRange => (.text "0001-01-01T00:00+01:00", .text "20261017")

/-- On these values all operators fail that can fail for the cause. -/
theorem Comparison.apply_trigger {operator : Operator} {type : FieldType} {cause : Failure}
    (h : cause ∈ operator.causes type) :
    apply operator type cause.trigger.1 cause.trigger.2 .null default = .error cause := by
  have hall : ∀ operator ∈ Operator.all, ∀ type ∈ FieldType.all, ∀ cause ∈ operator.causes type,
      Verdict.ofAnswer (apply operator type cause.trigger.1 cause.trigger.2 .null default) =
        .failed cause := by decide +kernel
  exact Verdict.ofAnswer_eq_failed.1 (hall operator operator.mem_all type (Catalogue.mem_all type) cause h)

/-- The causes of an operator are those for which it fails on some values. -/
theorem Operator.mem_causes_iff {operator : Operator} {type : FieldType} {cause : Failure} :
    cause ∈ operator.causes type ↔ ∃ raw expected upper now,
      Comparison.apply operator type raw expected upper now = .error cause := by
  constructor
  · intro h
    exact ⟨_, _, _, _, Comparison.apply_trigger h⟩
  · intro h
    obtain ⟨raw, expected, upper, now, hfails⟩ := h
    exact Comparison.apply_failsOnly operator type raw expected upper now cause hfails

end Segmentation
