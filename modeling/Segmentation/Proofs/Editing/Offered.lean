import Segmentation.Catalogue.Checking
import Segmentation.Editing.Condition
import Segmentation.Proofs.Catalogue.Operators
import Segmentation.Proofs.Validation.Agreement

/-!
# Operators that a catalogue offers

* `Condition.InOrder`: neither validation nor evaluation objects to the operator of a condition; they object
  to the operators that the catalogue does not allow.
* `Condition.changeOperator_eq_ok`: an operator is accepted if its field allows it, under the name that the
  type of the field has for it.
* `Catalogue.usable_iff`: all that a catalogue offers can be used unless it has a date field and lists, for
  dates, later or earlier by the general name only.
* `Catalogue.not_usable_laterDates`: such a catalogue is well formed.
-/

namespace Segmentation

open Calendar

namespace Condition

/-- No error about the operator of the condition is reported in any tree, and evaluation never turns the
condition down on its operator. -/
structure InOrder (catalogue : Catalogue) (c : Condition) : Prop where
  unreported : ∀ (t g : Group) (path : List Nat), t.getAt (path.map Int.ofNat) = .ok g →
    c ∈ g.conditions → ¬ t.ReportsOperator catalogue path c
  unrefused : ∀ (clock : Clock) (systemTime : DateTime) (record : Value),
    ((Evaluator.mk catalogue clock systemTime).judge c record).1.isRefusal = false

variable {catalogue : Catalogue} {c : Condition} {operator : Operator}

theorem inOrder_iff : c.InOrder catalogue ↔ c.Admissible catalogue := by
  constructor
  · intro h
    by_contra hc
    have hunrefused := h.unrefused .system default .null
    have hrefused : ((Evaluator.mk catalogue .system default).judge c .null).1.isRefusal = true :=
      isRefusal_verdict.2 hc
    rw [hunrefused] at hrefused
    cases hrefused
  · intro hc
    refine ⟨fun t g path hg hmem hreported => ?_, fun clock systemTime record => ?_⟩
    · exact (Group.reportsOperator_iff hg hmem).1 hreported hc
    · exact Bool.eq_false_iff.2 fun hrefused => isRefusal_verdict.1 hrefused hc

/-! ## Edits -/

theorem changeOperator_eq_ok {c' : Condition} :
    c.changeOperator catalogue operator.name = .ok c' ↔
      ∃ canonical, catalogue.canonicalOperator? c.field operator = some canonical ∧
        c' = { c with operator := .known canonical, value := .text "", value2 := .null } := by
  rw [changeOperator, Operator.named?_name, Option.bind_some]
  cases catalogue.canonicalOperator? c.field operator with
  | none => simp
  | some canonical => simp [eq_comm]

/-- An operator is accepted exactly if the field allows it, and then the condition is in order. -/
theorem exists_changeOperator_inOrder :
    (∃ c', c.changeOperator catalogue operator.name = .ok c' ∧ c'.InOrder catalogue) ↔
      (catalogue.canonicalOperator? c.field operator).isSome = true := by
  constructor
  · rintro ⟨c', hc', -⟩
    obtain ⟨canonical, hcanonical, -⟩ := changeOperator_eq_ok.1 hc'
    rw [hcanonical]
    rfl
  · intro h
    obtain ⟨canonical, hcanonical⟩ := Option.isSome_iff_exists.1 h
    refine ⟨_, changeOperator_eq_ok.2 ⟨canonical, hcanonical, rfl⟩, inOrder_iff.2 ⟨canonical, rfl, ?_⟩⟩
    dsimp only
    rw [Catalogue.canonicalOperator?_canonical hcanonical]
    rfl

/-- A condition that starts on a field is in order exactly if the field allows its default operator. -/
theorem inOrder_changeField {key : String} :
    (c.changeField catalogue key).InOrder catalogue ↔
      (catalogue.canonicalOperator? key (catalogue.defaultOperator key)).isSome = true := by
  rw [inOrder_iff]
  constructor
  · rintro ⟨operator, hoperator, hallowed⟩
    cases hoperator
    exact hallowed
  · exact fun h => ⟨_, rfl, h⟩

end Condition

namespace Catalogue

/-- Every operator that the catalogue offers for the field is accepted on it, and neither the condition that
comes of it nor one that moves to the field has anything wrong with its operator. -/
structure Usable (catalogue : Catalogue) (key : String) : Prop where
  offered : ∀ operator ∈ catalogue.operatorsFor key, ∀ c : Condition, c.field = key →
    ∃ c', c.changeOperator catalogue operator.name = .ok c' ∧ c'.InOrder catalogue
  moved : ∀ c : Condition, (c.changeField catalogue key).InOrder catalogue

theorem usable_iff_of_key {catalogue : Catalogue} {key : String} :
    catalogue.Usable key ↔ (catalogue.fieldType key = .date → catalogue.DatesNamed) := by
  constructor
  · intro h hdate
    have hlisted : ∀ operator ∈ catalogue.operatorsForType .date,
        operator.onDates ∈ catalogue.operatorsForType .date := by
      intro operator hmem
      have hoffered : operator ∈ catalogue.operatorsFor key := by rwa [operatorsFor, hdate]
      have haccepted := h.offered operator hoffered ⟨"", key, .known operator, .null, .null⟩ rfl
      have hallowed := Condition.exists_changeOperator_inOrder.1 haccepted
      exact (isSome_canonicalOperator?_iff hoffered).1 hallowed hdate
    exact ⟨hlisted .greaterThan, hlisted .lessThan⟩
  · intro h
    refine ⟨fun operator hmem c hfield => ?_, fun c => ?_⟩
    · subst hfield
      exact Condition.exists_changeOperator_inOrder.2 (isSome_canonicalOperator?_of_mem h hmem)
    · exact Condition.inOrder_changeField.2
        (isSome_canonicalOperator?_of_mem h (catalogue.defaultOperator_mem key))

/-- In a catalogue all operators that are offered can be used, and new conditions are in order, exactly if it
has no date field or lists, for dates, what later and earlier are called there wherever it lists the general
names. -/
theorem usable_iff (catalogue : Catalogue) :
    ((∀ key, catalogue.Usable key) ∧ ∀ id, (Condition.create catalogue id).InOrder catalogue) ↔
      ((∃ key, catalogue.fieldType key = .date) → catalogue.DatesNamed) := by
  constructor
  · rintro ⟨h, -⟩ ⟨key, hdate⟩
    exact usable_iff_of_key.1 (h key) hdate
  · intro h
    have husable : ∀ key, catalogue.Usable key := fun key =>
      usable_iff_of_key.2 fun hdate => h ⟨key, hdate⟩
    -- A new condition is one that was moved to the first field.
    exact ⟨husable, fun id => (husable catalogue.firstField.key).moved ⟨id, "", .unknown "", .null, .null⟩⟩

/-- A catalogue with one date field, on which dates can only be compared by the general name for later. -/
def laterDates : Catalogue where
  fields := [{ key := "joined", label := "Joined", type := .date }]
  operators := setOperators standardOperators (.date, [.greaterThan])
  wellFormed := by constructor <;> decide

/-- The only operator that is offered for the field is refused by the edit, reported by validation and turned
down by evaluation, and it is the one with which new conditions start. -/
theorem not_usable_laterDates :
    let c := Condition.create laterDates "c"
    laterDates.operatorsFor c.field = [.greaterThan] ∧ c.operator = .known .greaterThan ∧
      c.changeOperator laterDates "greater_than" = .error (.notValid "greater_than" "joined") ∧
      (⟨"g", .and, [c], []⟩ : Group).validate laterDates =
        [⟨[], "c", .operatorNotAllowed .greaterThan .date "joined"⟩] ∧
      (∀ (clock : Clock) (systemTime : DateTime) (record : Value),
        ((Evaluator.mk laterDates clock systemTime).judge c record).1 = .notAllowed .greaterThan .date) ∧
      ¬ laterDates.Usable "joined" := by
  intro c
  have hrefused : c.changeOperator laterDates "greater_than" = .error (.notValid "greater_than" "joined") := by
    decide
  refine ⟨by decide, by decide, hrefused, by decide, fun clock systemTime record => rfl, fun h => ?_⟩
  obtain ⟨c', haccepted, -⟩ := h.offered .greaterThan (by decide) c rfl
  cases hrefused.symm.trans haccepted

end Catalogue

end Segmentation
