import Segmentation.Catalogue

/-!
# Operators that a catalogue allows

* `Catalogue.canonicalOperator?_eq_some`: a field allows an operator if the type of the field lists its name.
* `Catalogue.DatesNamed`: the catalogue lists the names that date fields have for later and earlier.
* `Catalogue.DatesNamed.isSome_defaultOperator`: with such a catalogue a field allows the operator with which
  its conditions start.
-/

namespace Segmentation

theorem Operator.mem_all (operator : Operator) : operator ∈ all := by
  cases operator <;> decide

@[simp] theorem Operator.named?_name (operator : Operator) : named? operator.name = some operator := by
  cases operator <;> decide

namespace Catalogue

/-- If dates can be compared by the general names for later and earlier, they can be by their own names. -/
structure DatesNamed (catalogue : Catalogue) : Prop where
  after : .greaterThan ∈ catalogue.operatorsForType .date → .after ∈ catalogue.operatorsForType .date
  before : .lessThan ∈ catalogue.operatorsForType .date → .before ∈ catalogue.operatorsForType .date

theorem DatesNamed.onDates {catalogue : Catalogue} (h : catalogue.DatesNamed) {operator : Operator}
    (hmem : operator ∈ catalogue.operatorsForType .date) :
    operator.onDates ∈ catalogue.operatorsForType .date := by
  cases operator with
  | greaterThan => exact h.after hmem
  | lessThan => exact h.before hmem
  | _ => exact hmem

theorem canonicalOperator?_eq_some {catalogue : Catalogue} {key : String} {operator canonical : Operator} :
    catalogue.canonicalOperator? key operator = some canonical ↔
      canonical = (if catalogue.fieldType key = .date then operator.onDates else operator) ∧
        canonical ∈ catalogue.operatorsForType (catalogue.fieldType key) := by
  unfold canonicalOperator?
  dsimp only
  generalize (if catalogue.fieldType key = .date then operator.onDates else operator) = named
  by_cases hmem : named ∈ catalogue.operatorsForType (catalogue.fieldType key)
  · rw [if_pos hmem]
    constructor
    · intro h
      cases h
      exact ⟨rfl, hmem⟩
    · rintro ⟨rfl, -⟩
      rfl
  · rw [if_neg hmem]
    constructor
    · intro h
      cases h
    · rintro ⟨rfl, h⟩
      exact absurd h hmem

/-- A field allows an operator that is listed for it unless dates have another name for it, which is not
listed. -/
theorem isSome_canonicalOperator?_iff {catalogue : Catalogue} {key : String} {operator : Operator}
    (hmem : operator ∈ catalogue.operatorsFor key) :
    (catalogue.canonicalOperator? key operator).isSome = true ↔
      (catalogue.fieldType key = .date → operator.onDates ∈ catalogue.operatorsForType .date) := by
  unfold operatorsFor at hmem
  rw [Option.isSome_iff_exists]
  by_cases hdate : catalogue.fieldType key = .date
  · simp only [canonicalOperator?_eq_some, hdate, if_true, exists_eq_left, true_imp_iff]
  · simp only [canonicalOperator?_eq_some, hdate, if_false, exists_eq_left, hmem, false_imp_iff]

/-- An operator that dates have no other name for is listed under its own name. -/
theorem canonicalOperator?_of_mem {catalogue : Catalogue} {key : String} {operator : Operator}
    (honDates : catalogue.fieldType key = .date → operator.onDates = operator)
    (hmem : operator ∈ catalogue.operatorsFor key) :
    catalogue.canonicalOperator? key operator = some operator := by
  refine canonicalOperator?_eq_some.2 ⟨?_, hmem⟩
  by_cases hdate : catalogue.fieldType key = .date
  · rw [if_pos hdate, honDates hdate]
  · rw [if_neg hdate]

theorem defaultOperator_mem (catalogue : Catalogue) (key : String) :
    catalogue.defaultOperator key ∈ catalogue.operatorsFor key :=
  List.head_mem _

/-- A field allows all operators that are listed for it, one of dates if its names for later and earlier are
listed. -/
theorem isSome_canonicalOperator?_of_mem {catalogue : Catalogue} {key : String} {operator : Operator}
    (h : catalogue.fieldType key = .date → catalogue.DatesNamed)
    (hmem : operator ∈ catalogue.operatorsFor key) :
    (catalogue.canonicalOperator? key operator).isSome = true := by
  rw [isSome_canonicalOperator?_iff hmem]
  intro hdate
  rw [operatorsFor, hdate] at hmem
  exact (h hdate).onDates hmem

/-- The operator with which a condition starts is one that its field allows. -/
theorem DatesNamed.isSome_defaultOperator {catalogue : Catalogue} (h : catalogue.DatesNamed)
    (key : String) :
    (catalogue.canonicalOperator? key (catalogue.defaultOperator key)).isSome = true :=
  isSome_canonicalOperator?_of_mem (fun _ => h) (catalogue.defaultOperator_mem key)

/-- The name that a field has for an operator is its own name for itself. -/
theorem canonicalOperator?_canonical {catalogue : Catalogue} {key : String}
    {operator canonical : Operator} (h : catalogue.canonicalOperator? key operator = some canonical) :
    catalogue.canonicalOperator? key canonical = some canonical := by
  obtain ⟨hcanonical, hmem⟩ := canonicalOperator?_eq_some.1 h
  refine canonicalOperator?_eq_some.2 ⟨?_, hmem⟩
  by_cases hdate : catalogue.fieldType key = .date
  · rw [if_pos hdate] at hcanonical ⊢
    rw [hcanonical]
    cases operator <;> rfl
  · rw [if_neg hdate]

end Catalogue

end Segmentation
