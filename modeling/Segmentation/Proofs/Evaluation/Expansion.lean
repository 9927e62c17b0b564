import Segmentation.Catalogue.Contact
import Segmentation.Proofs.Evaluation.Monotone
import Segmentation.Proofs.Evaluation.SeveralValues
import Segmentation.Proofs.Evaluation.Verdict

/-!
# Conditions with several values, as groups of conditions with one value

* `Condition.expansion?`: the group that a range, a choice among values or a set of members stands for.
* `Condition.holds_expansion`: it holds for the same records.
* `Group.expand`: the tree with every such condition replaced, at every depth; none is left in it.
* `Evaluator.evaluate_expand`: the tree and its expansion hold for the same records.
-/

namespace Segmentation

open Calendar

/-! ## Replacing one condition -/

theorem Catalogue.contact_operatorsForType (type : FieldType) :
    contact.operatorsForType type = Operator.standard type := by
  cases type <;> rfl

namespace Condition

/-- A condition on the same field with one value. -/
def single (c : Condition) (operator : Operator) (value : Operand) : Condition :=
  { c with operator := .known operator, value := value, value2 := .null }

/-- The bounds of a range, the upper one only if there is one. -/
def bounds (c : Condition) : List Condition :=
  c.single .greaterOrEqual c.value ::
    if c.value2.isBlank then [] else [c.single .lessOrEqual c.value2]

/-- The group that a condition with several values stands for. -/
def expansion? (catalogue : Catalogue) (c : Condition) : Option Group :=
  match c.operator, catalogue.fieldType c.field with
  | .known .between, .number => some ⟨c.id, .and, c.bounds, []⟩
  | .known .isIn, .select => some ⟨c.id, .or, c.value.elements.map (c.single .equals), []⟩
  | .known .notIn, .select => some ⟨c.id, .and, c.value.elements.map (c.single .notEquals), []⟩
  | .known .containsAll, .array => some ⟨c.id, .and, c.value.elements.map (c.single .contains), []⟩
  | _, _ => none

/-- A condition with one value stands for itself. -/
theorem expansion?_single {catalogue : Catalogue} {c : Condition} {operator : Operator} {value : Operand}
    (h : operator ∈ [.greaterOrEqual, .lessOrEqual, .equals, .notEquals, .contains]) :
    (c.single operator value).expansion? catalogue = none := by
  simp only [List.mem_cons, List.not_mem_nil, or_false] at h
  rcases h with rfl | rfl | rfl | rfl | rfl <;> rfl

/-- No condition with several values is left in the group that one stands for. -/
theorem eachCondition_expansion {catalogue : Catalogue} {c : Condition} {g : Group}
    (hg : c.expansion? catalogue = some g) :
    g.EachCondition fun d => d.expansion? catalogue = none := by
  have hsingles : ∀ operator ∈ [.equals, .notEquals, .contains],
      ∀ d ∈ c.value.elements.map (c.single operator), d.expansion? catalogue = none := by
    intro operator hoperator d hd
    obtain ⟨x, -, rfl⟩ := List.mem_map.1 hd
    exact expansion?_single (List.mem_cons_of_mem _ (List.mem_cons_of_mem _ hoperator))
  have hbounds : ∀ d ∈ c.bounds, d.expansion? catalogue = none := by
    unfold bounds
    refine List.forall_mem_cons.2 ⟨expansion?_single (by decide), fun d hd => ?_⟩
    split at hd
    · cases hd
    · rw [List.mem_singleton.1 hd]
      exact expansion?_single (by decide)
  unfold expansion? at hg
  split at hg
  · cases hg
    exact Group.eachCondition_iff.2 ⟨hbounds, fun sub hsub => by cases hsub⟩
  · cases hg
    exact Group.eachCondition_iff.2 ⟨hsingles _ (by decide), fun sub hsub => by cases hsub⟩
  · cases hg
    exact Group.eachCondition_iff.2 ⟨hsingles _ (by decide), fun sub hsub => by cases hsub⟩
  · cases hg
    exact Group.eachCondition_iff.2 ⟨hsingles _ (by decide), fun sub hsub => by cases hsub⟩
  · cases hg

section Holds

variable {catalogue : Catalogue} {now : DateTime} {record : Value}

/-- On fields without dates an operator of the field's type is applied as it stands. -/
theorem holds_contact {c : Condition} {type : FieldType} {operator : Operator}
    (hoperator : c.operator = .known operator) (htype : Catalogue.contact.fieldType c.field = type)
    (hdate : type ≠ .date) (hmem : operator ∈ Operator.standard type) :
    c.holds .contact now record = true ↔
      Comparison.apply operator type (record.resolve c.field) c.value c.value2 now = .ok true := by
  subst htype
  refine holds_eq_true hoperator ?_
  unfold Catalogue.canonicalOperator?
  dsimp only
  rw [if_neg hdate, Catalogue.contact_operatorsForType, if_pos hmem]

/-- A condition with one value is the answer of its operator. -/
theorem holds_single {c : Condition} {type : FieldType} {operator : Operator} {value : Operand}
    (htype : Catalogue.contact.fieldType c.field = type) (hdate : type ≠ .date)
    (hmem : operator ∈ Operator.standard type) :
    (c.single operator value).holds .contact now record = true ↔
      Comparison.apply operator type (record.resolve c.field) value .null now = .ok true :=
  holds_contact (c := c.single operator value) rfl htype hdate hmem

/-- A range holds if its bounds do. -/
theorem holds_between {c : Condition} (hoperator : c.operator = .known .between)
    (htype : Catalogue.contact.fieldType c.field = .number) :
    c.holds .contact now record = true ↔ ∀ b ∈ c.bounds, b.holds .contact now record = true := by
  have hdate : FieldType.number ≠ .date := by decide
  rw [holds_contact hoperator htype hdate (by decide)]
  unfold Comparison.apply
  dsimp only
  rw [Comparison.within_eq_ok]
  unfold bounds
  rw [List.forall_mem_cons, holds_single htype hdate (by decide)]
  refine and_congr Iff.rfl ?_
  cases c.value2.isBlank with
  | true => simp
  | false =>
    rw [if_neg Bool.false_ne_true, List.forall_mem_singleton, holds_single htype hdate (by decide)]
    exact ⟨fun h => h rfl, fun h _ => h⟩

/-- A choice among several values holds if the choice of one of them does. -/
theorem holds_isIn {c : Condition} (hoperator : c.operator = .known .isIn)
    (htype : Catalogue.contact.fieldType c.field = .select) :
    c.holds .contact now record = true ↔
      ∃ x ∈ c.value.elements, (c.single .equals x).holds .contact now record = true := by
  have hdate : FieldType.select ≠ .date := by decide
  have hnumber : FieldType.select ≠ .number := by decide
  rw [holds_contact hoperator htype hdate (by decide)]
  unfold Comparison.apply
  dsimp only
  rw [Comparison.isAmong_eq_ok_true hnumber]
  refine exists_congr fun x => and_congr Iff.rfl ?_
  rw [holds_single htype hdate (by decide)]
  rfl

/-- Several values are avoided if each of them is. -/
theorem holds_notIn {c : Condition} (hoperator : c.operator = .known .notIn)
    (htype : Catalogue.contact.fieldType c.field = .select)
    (hrecord : (record.resolve c.field).HasText) :
    c.holds .contact now record = true ↔
      ∀ x ∈ c.value.elements, (c.single .notEquals x).holds .contact now record = true := by
  have hdate : FieldType.select ≠ .date := by decide
  have hnumber : FieldType.select ≠ .number := by decide
  rw [holds_contact hoperator htype hdate (by decide)]
  unfold Comparison.apply
  dsimp only
  rw [Comparison.not_eq_ok, Bool.not_true,
    Comparison.isAmong_eq_ok_false hnumber (Comparison.hasText_stored hrecord)]
  refine forall₂_congr fun x _ => ?_
  rw [holds_single htype hdate (by decide)]
  unfold Comparison.apply
  dsimp only
  rw [Comparison.not_eq_ok, Bool.not_true]

/-- A set of members is contained if each of them is. -/
theorem holds_containsAll {c : Condition} (hoperator : c.operator = .known .containsAll)
    (htype : Catalogue.contact.fieldType c.field = .array)
    (hrecord : (record.resolve c.field).HasText) :
    c.holds .contact now record = true ↔
      ∀ x ∈ c.value.elements, (c.single .contains x).holds .contact now record = true := by
  have hdate : FieldType.array ≠ .date := by decide
  rw [holds_contact hoperator htype hdate (by decide)]
  unfold Comparison.apply
  dsimp only
  rw [Comparison.holdsAll_eq_ok (Comparison.hasText_stored hrecord)]
  refine forall₂_congr fun x _ => ?_
  rw [holds_single htype hdate (by decide)]
  rfl

/-- A condition with several values and the group that it stands for hold for the same records. -/
theorem holds_expansion {c : Condition} {g : Group} (hg : c.expansion? .contact = some g)
    (hrecord : (record.resolve c.field).HasText) :
    g.holds .contact now record = true ↔ c.holds .contact now record = true := by
  unfold expansion? at hg
  split at hg
  · rename_i hoperator htype
    cases hg
    rw [holds_between hoperator htype, Group.holds_and]
    simp
  · rename_i hoperator htype
    cases hg
    rw [holds_isIn hoperator htype, Group.holds_or]
    simp
  · rename_i hoperator htype
    cases hg
    rw [holds_notIn hoperator htype hrecord, Group.holds_and]
    simp
  · rename_i hoperator htype
    cases hg
    rw [holds_containsAll hoperator htype hrecord, Group.holds_and]
    simp
  · cases hg

end Holds

end Condition

/-! ## Replacing every condition -/

namespace Group

mutual

/-- The tree in which every condition with several values is the group that it stands for. -/
def expand (catalogue : Catalogue) : Group → Group
  | ⟨id, connective, conditions, groups⟩ =>
    ⟨id, connective, conditions.filter fun c => (c.expansion? catalogue).isNone,
      conditions.filterMap (·.expansion? catalogue) ++ expandAll catalogue groups⟩

/-- The trees of a list, expanded. -/
def expandAll (catalogue : Catalogue) : List Group → List Group
  | [] => []
  | g :: gs => expand catalogue g :: expandAll catalogue gs

end

variable {catalogue : Catalogue} {conditions : List Condition} {groups : List Group}

theorem expandAll_eq : expandAll catalogue groups = groups.map (expand catalogue) := by
  induction groups with
  | nil => rfl
  | cons g gs ih => rw [expandAll, ih, List.map_cons]

/-- No condition with several values is left in an expanded tree. -/
theorem eachCondition_expand (catalogue : Catalogue) (t : Group) :
    (t.expand catalogue).EachCondition fun c => c.expansion? catalogue = none := by
  induction t with
  | node t ih =>
    obtain ⟨id, connective, conditions, groups⟩ := t
    rw [expand, expandAll_eq]
    refine eachCondition_iff.2 ⟨fun c hc => ?_, fun sub hsub => ?_⟩
    · exact Option.isNone_iff_eq_none.1 (List.mem_filter.1 hc).2
    · rcases List.mem_append.1 hsub with hsub | hsub
      · obtain ⟨c, -, hg⟩ := List.mem_filterMap.1 hsub
        exact Condition.eachCondition_expansion hg
      · obtain ⟨g, hg, rfl⟩ := List.mem_map.1 hsub
        exact ih g hg

/-- A condition is either kept or replaced, so that all children hold if all conditions and groups did. -/
theorem forall_expanded {p : Condition → Prop} {q : Group → Prop}
    (hpq : ∀ c ∈ conditions, ∀ g, c.expansion? catalogue = some g → (q g ↔ p c)) :
    ((∀ c ∈ conditions.filter fun c => (c.expansion? catalogue).isNone, p c) ∧
        ∀ g ∈ conditions.filterMap (·.expansion? catalogue), q g) ↔
      ∀ c ∈ conditions, p c := by
  constructor
  · rintro ⟨hkept, hreplaced⟩ c hc
    cases hg : c.expansion? catalogue with
    | none => exact hkept c (List.mem_filter.2 ⟨hc, by rw [hg]; rfl⟩)
    | some g => exact (hpq c hc g hg).1 (hreplaced g (List.mem_filterMap.2 ⟨c, hc, hg⟩))
  · intro h
    refine ⟨fun c hc => h c (List.mem_filter.1 hc).1, fun g hg => ?_⟩
    obtain ⟨c, hc, hg⟩ := List.mem_filterMap.1 hg
    exact (hpq c hc g hg).2 (h c hc)

/-- A condition is either kept or replaced, so that some child holds if some condition or group did. -/
theorem exists_expanded {p : Condition → Prop} {q : Group → Prop}
    (hpq : ∀ c ∈ conditions, ∀ g, c.expansion? catalogue = some g → (q g ↔ p c)) :
    ((∃ c ∈ conditions.filter fun c => (c.expansion? catalogue).isNone, p c) ∨
        ∃ g ∈ conditions.filterMap (·.expansion? catalogue), q g) ↔
      ∃ c ∈ conditions, p c := by
  constructor
  · rintro (⟨c, hc, h⟩ | ⟨g, hg, h⟩)
    · exact ⟨c, (List.mem_filter.1 hc).1, h⟩
    · obtain ⟨c, hc, hg⟩ := List.mem_filterMap.1 hg
      exact ⟨c, hc, (hpq c hc g hg).1 h⟩
  · rintro ⟨c, hc, h⟩
    cases hg : c.expansion? catalogue with
    | none => exact .inl ⟨c, List.mem_filter.2 ⟨hc, by rw [hg]; rfl⟩, h⟩
    | some g => exact .inr ⟨g, List.mem_filterMap.2 ⟨c, hc, hg⟩, (hpq c hc g hg).2 h⟩

/-- A tree and its expansion hold for the same records. -/
theorem holds_expand {now : DateTime} {record : Value} (hrecord : ∀ key, (record.resolve key).HasText)
    (t : Group) : (t.expand .contact).holds .contact now record = t.holds .contact now record := by
  induction t with
  | node t ih =>
    obtain ⟨id, connective, conditions, groups⟩ := t
    have hexpansion : ∀ c ∈ conditions, ∀ g, c.expansion? .contact = some g →
        (g.holds .contact now record = true ↔ c.holds .contact now record = true) :=
      fun c _ g hg => Condition.holds_expansion hg (hrecord c.field)
    rw [Bool.eq_iff_iff, expand, expandAll_eq]
    cases connective with
    | and =>
      rw [holds_and, holds_and, List.forall_mem_append, ← and_assoc, forall_expanded hexpansion,
        List.forall_mem_map]
      refine and_congr Iff.rfl (forall₂_congr fun sub hsub => ?_)
      rw [ih sub hsub]
    | or =>
      rw [holds_or, holds_or]
      simp only [List.mem_append, or_and_right, exists_or, List.mem_map, exists_exists_and_eq_and]
      rw [← or_assoc, exists_expanded hexpansion]
      refine or_congr Iff.rfl (exists_congr fun sub => and_congr_right fun hsub => ?_)
      rw [ih sub hsub]

end Group

/-- Conditions with several values mean the groups of conditions with one value that they abbreviate: none
is left in the expansion of a tree, and it holds for the same records at every reference time. -/
theorem Evaluator.evaluate_expand (clock : Clock) (systemTime : DateTime) (t : Group) {record : Value}
    (hrecord : ∀ key, (record.resolve key).HasText) :
    ((t.expand .contact).EachCondition fun c => c.expansion? .contact = none) ∧
      (Evaluator.mk .contact clock systemTime).evaluate (t.expand .contact) record =
        (Evaluator.mk .contact clock systemTime).evaluate t record := by
  refine ⟨t.eachCondition_expand .contact, ?_⟩
  unfold evaluate now
  dsimp only
  rw [Group.holds_expand hrecord]

/-- A record without a status, under a range, a choice and a set of members at two depths. -/
theorem Evaluator.evaluate_expand_nested :
    let record : Value := .ofFields [("lead_score", .text "70.5"),
      ("tags", .collection .list [.text "VIP", .text "new"])]
    let t : Group := ⟨"root", .and, [⟨"a", "lead_score", .known .between, .int 50, .text ""⟩],
      [⟨"inner", .or, [⟨"b", "status", .known .isIn, .texts ["active"], .null⟩,
        ⟨"c", "tags", .known .containsAll, .texts ["vip", "New"], .null⟩], []⟩]⟩
    let e : Evaluator := ⟨.contact, .system, default⟩
    (∀ key, (record.resolve key).HasText) ∧ (e.evaluate (t.expand .contact) record).1 = true := by
  dsimp only
  refine ⟨Value.HasText.resolve ⟨_, rfl⟩, ?_⟩
  rw [(evaluate_expand .system default _ (Value.HasText.resolve ⟨_, rfl⟩)).2]
  decide +kernel

end Segmentation
