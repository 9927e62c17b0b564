import Segmentation.Proofs.Catalogue.Operators
import Segmentation.Proofs.Evaluation.Monotone
import Segmentation.Proofs.Evaluation.SeveralValues
import Segmentation.Proofs.Evaluation.Verdict

/-!
# The complement of a rule tree

* `Operator.partner?`: the operator that asks the opposite question.
* `Comparison.apply_partner`: it gives the opposite answer and fails on the same values.
* `Comparison.exists_apply_of_partner`: it fails only on values without a text and on numbers out of range.
* `Group.complement`: the tree with AND and OR swapped in every group and every operator for its partner.
* `Evaluator.evaluate_complement`: it holds for exactly the records that the tree does not hold for.
-/

namespace Segmentation

open Calendar

/-! ## Opposite questions -/

namespace Operator

/-- The operator that asks the opposite question, if there is one. -/
def partner? : Operator → Option Operator
  | equals => some notEquals
  | notEquals => some equals
  | contains => some notContains
  | notContains => some contains
  | isIn => some notIn
  | notIn => some isIn
  | isEmpty => some isNotEmpty
  | isNotEmpty => some isEmpty
  | _ => none

/-- An operator with a partner goes by the same name on dates. -/
theorem onDates_of_partner {operator partner : Operator} (h : operator.partner? = some partner) :
    operator.onDates = operator := by
  cases operator with
  | greaterThan => cases h
  | lessThan => cases h
  | _ => rfl

theorem partner?_partner {operator partner : Operator} (h : operator.partner? = some partner) :
    partner.partner? = some operator := by
  cases operator <;> cases h <;> rfl

end Operator

namespace Comparison

variable {operator partner : Operator} {type : FieldType} {raw : Value} {expected upper : Operand}
  {now : DateTime}

theorem bind_not (answer : Except Failure Bool) : (do return !(← answer)) = answer.map (!·) := by
  cases answer <;> rfl

theorem map_not_map_not (answer : Except Failure Bool) : (answer.map (!·)).map (!·) = answer := by
  cases answer with
  | error cause => rfl
  | ok b => simp [Except.map]

/-- The partner of an operator turns its answer round. Where one of them fails, so does the other. -/
theorem apply_partner (h : operator.partner? = some partner) :
    apply partner type raw expected upper now = (apply operator type raw expected upper now).map (!·) := by
  cases operator with
  | equals | contains | isIn =>
    cases h
    exact bind_not _
  | notEquals | notContains | notIn =>
    cases h
    simp only [apply, bind_not, map_not_map_not]
  | isEmpty =>
    cases h
    rfl
  | isNotEmpty =>
    cases h
    simp [apply, Except.map]
  | _ => cases h

end Comparison

/-! ## Values that can be read -/

/-- Reading the value as a number does not fail: integers are in the range of floating-point numbers, and
decimals do not signal. -/
def Value.InRange : Value → Prop
  | int n => (Binary64.ofInt n).isFinite = true
  | decimal d => ∀ negative payload, d ≠ .nan negative true payload
  | _ => True

theorem Value.InRange.number? {v : Value} (hv : v.InRange) : ∃ x, v.number? = .ok x := by
  cases v with
  | int n =>
    have hfinite : (Binary64.ofInt n).isFinite = true := hv
    simp [Value.number?, hfinite]
  | decimal d =>
    cases d with
    | nan negative signalling payload =>
      cases signalling with
      | true => exact absurd rfl (hv negative payload)
      | false => exact ⟨_, rfl⟩
    | finite negative coefficient exp => exact ⟨_, rfl⟩
    | infinite negative => exact ⟨_, rfl⟩
  | _ => exact ⟨_, rfl⟩

namespace Comparison

variable {type : FieldType} {raw actual expected : Value}

theorem inRange_stored (hraw : raw.InRange) : (stored .number raw).InRange := by
  cases raw with
  | null =>
    change (Binary64.ofInt 0).isFinite = true
    decide
  | _ => exact hraw

/-- Two values can be compared if both have a text and, where numbers are compared, are in range. -/
theorem exists_equal (hactual : actual.HasText) (hexpected : expected.HasText)
    (hnumbers : type = .number → actual.InRange ∧ expected.InRange) :
    ∃ b, equal type actual expected = .ok b := by
  obtain ⟨s, hs⟩ := hactual.comparisonText
  obtain ⟨t, ht⟩ := hexpected.comparisonText
  by_cases htype : type = .number
  · subst htype
    obtain ⟨hleft, hright⟩ := hnumbers rfl
    have htexts : ∃ b, (do return decide ((← actual.comparisonText) = (← expected.comparisonText))) =
        Except.ok b :=
      ⟨decide (s = t), bind_eq_ok.2 ⟨s, hs, bind_eq_ok.2 ⟨t, ht, rfl⟩⟩⟩
    refine exists_bind_eq_ok hleft.number? fun x => exists_bind_eq_ok hright.number? fun y => ?_
    cases x with
    | none => exact htexts
    | some x =>
      cases y with
      | none => exact htexts
      | some y => exact ⟨_, rfl⟩
  · exact ⟨_, (equal_eq_ok htype).2 ⟨s, t, hs, ht, rfl⟩⟩

theorem exists_anyFolded {needle : String} {vs : List Value} (hvs : ∀ v ∈ vs, v.HasText) :
    ∃ b, holds.anyFolded needle vs = .ok b := by
  induction vs with
  | nil => exact ⟨false, rfl⟩
  | cons v vs ih =>
    rw [List.forall_mem_cons] at hvs
    rw [holds.anyFolded]
    refine exists_bind_eq_ok hvs.1.foldedText fun s => ?_
    split
    · exact ⟨true, rfl⟩
    · exact ih hvs.2

/-- A value can be looked for in another one if both have a text. -/
theorem exists_holds (hactual : actual.HasText) (hexpected : expected.HasText) :
    ∃ b, holds type actual expected = .ok b := by
  unfold holds
  refine exists_bind_eq_ok hexpected.foldedText fun needle => ?_
  have hmembers : ∃ b, holds.anyFolded needle actual.members = .ok b :=
    exists_anyFolded hactual.members
  split
  · exact hmembers
  · exact hmembers
  · exact exists_bind_eq_ok hactual.foldedText fun _ => ⟨_, rfl⟩

/-- A value can be looked for among others if all of them have a text. -/
theorem exists_isAmong (hactual : actual.HasText) (hexpected : expected.HasText) :
    ∃ b, isAmong actual expected = .ok b := by
  unfold isAmong
  refine exists_bind_eq_ok hactual.comparisonText fun s => ?_
  have htexts : ∃ ss, expected.members.mapM Value.comparisonText = .ok ss :=
    exists_mapM_eq_ok fun v hv => (hexpected.members v hv).comparisonText
  exact exists_bind_eq_ok htexts fun _ => ⟨_, rfl⟩

/-- An operator with a partner answers if both sides have a text and, where numbers are compared, are in
range. -/
theorem exists_apply_of_partner {operator partner : Operator} {value : Operand}
    (h : operator.partner? = some partner) (upper : Operand) (now : DateTime) (hraw : raw.HasText)
    (hvalue : value.toValue.HasText)
    (hnumbers : type = .number → raw.InRange ∧ value.toValue.InRange) :
    ∃ b, apply operator type raw value upper now = .ok b := by
  have hstored : (stored type raw).HasText := hasText_stored hraw
  have hinRange : type = .number → (stored type raw).InRange ∧ value.toValue.InRange := by
    rintro rfl
    exact ⟨inRange_stored (hnumbers rfl).1, (hnumbers rfl).2⟩
  cases operator with
  | equals => exact exists_equal hstored hvalue hinRange
  | notEquals => exact exists_bind_eq_ok (exists_equal hstored hvalue hinRange) fun _ => ⟨_, rfl⟩
  | contains => exact exists_holds hstored hvalue
  | notContains => exact exists_bind_eq_ok (exists_holds hstored hvalue) fun _ => ⟨_, rfl⟩
  | isIn => exact exists_isAmong hstored hvalue
  | notIn => exact exists_bind_eq_ok (exists_isAmong hstored hvalue) fun _ => ⟨_, rfl⟩
  | isEmpty => exact ⟨_, rfl⟩
  | isNotEmpty => exact ⟨_, rfl⟩
  | _ => cases h

end Comparison

/-! ## The complement of a condition -/

namespace Condition

/-- The same condition with the partner of its operator. -/
def complement (c : Condition) : Condition :=
  match c.operator with
  | .known operator => { c with operator := .known (operator.partner?.getD operator) }
  | .unknown _ => c

/-- The operator of the condition has a partner, and the catalogue lists both for the field. -/
def HasComplement (catalogue : Catalogue) (c : Condition) : Prop :=
  ∃ operator partner, c.operator = .known operator ∧ operator.partner? = some partner ∧
    operator ∈ catalogue.operatorsFor c.field ∧ partner ∈ catalogue.operatorsFor c.field

/-- The operator of the condition was applied and failed. -/
def Degrades (catalogue : Catalogue) (now : DateTime) (record : Value) (c : Condition) : Prop :=
  ∃ cause, c.verdict catalogue now record = .failed cause

/-- Both sides of the condition have a text, and on a field of numbers both are in range. -/
structure IsReadable (catalogue : Catalogue) (record : Value) (c : Condition) : Prop where
  stored_hasText : (record.resolve c.field).HasText
  value_hasText : c.value.toValue.HasText
  inRange : catalogue.fieldType c.field = .number →
    (record.resolve c.field).InRange ∧ c.value.toValue.InRange

variable {catalogue : Catalogue} {now : DateTime} {record : Value} {c : Condition}

theorem canonicalOperator?_of_partner {operator partner : Operator} {key : String}
    (h : operator.partner? = some partner) (hmem : operator ∈ catalogue.operatorsFor key) :
    catalogue.canonicalOperator? key operator = some operator :=
  Catalogue.canonicalOperator?_of_mem (fun _ => Operator.onDates_of_partner h) hmem

/-- A condition that has a complement gets the answer of its operator, and the complement the opposite. -/
theorem HasComplement.verdict (hc : c.HasComplement catalogue) (now : DateTime) (record : Value) :
    ∃ answer, c.verdict catalogue now record = .ofAnswer answer ∧
      c.complement.verdict catalogue now record = .ofAnswer (answer.map (!·)) := by
  obtain ⟨operator, partner, hoperator, hpartner, hmem, hmem'⟩ := hc
  have hcanonical : catalogue.canonicalOperator? c.field operator = some operator :=
    canonicalOperator?_of_partner hpartner hmem
  have hcanonical' : catalogue.canonicalOperator? c.field partner = some partner :=
    canonicalOperator?_of_partner (Operator.partner?_partner hpartner) hmem'
  have hcomplement : c.complement = { c with operator := .known partner } := by
    simp only [complement, hoperator, hpartner, Option.getD_some]
  refine ⟨_, verdict_of_canonical hoperator hcanonical, ?_⟩
  rw [hcomplement, ← Comparison.apply_partner hpartner]
  exact verdict_of_canonical rfl hcanonical'

/-- Unless values cannot be read, a condition or its complement holds, and not both. -/
theorem holds_complement (hc : c.HasComplement catalogue) (hread : ¬ c.Degrades catalogue now record) :
    c.complement.holds catalogue now record = !c.holds catalogue now record := by
  obtain ⟨answer, hverdict, hverdict'⟩ := hc.verdict now record
  cases answer with
  | error cause => exact absurd ⟨cause, hverdict⟩ hread
  | ok b =>
    rw [holds, holds, hverdict, hverdict']
    rfl

theorem IsReadable.not_degrades (hread : c.IsReadable catalogue record) (hc : c.HasComplement catalogue) :
    ¬ c.Degrades catalogue now record := by
  obtain ⟨operator, partner, hoperator, hpartner, hmem, -⟩ := hc
  rintro ⟨cause, hfailed⟩
  obtain ⟨b, hb⟩ := Comparison.exists_apply_of_partner hpartner c.value2 now
    hread.stored_hasText hread.value_hasText hread.inRange
  rw [verdict_of_canonical hoperator (canonicalOperator?_of_partner hpartner hmem), hb] at hfailed
  cases hfailed

end Condition

/-! ## The complement of a tree -/

namespace Group

mutual

/-- The tree with AND and OR swapped in every group and the complement of every condition. -/
def complement : Group → Group
  | ⟨id, connective, conditions, groups⟩ =>
    ⟨id, connective.opposite, conditions.map Condition.complement, complementAll groups⟩

/-- The complements of the trees of a list. -/
def complementAll : List Group → List Group
  | [] => []
  | g :: gs => complement g :: complementAll gs

end

theorem complementAll_eq (gs : List Group) : complementAll gs = gs.map complement := by
  induction gs with
  | nil => rfl
  | cons g gs ih => rw [complementAll, ih, List.map_cons]

/-- The complement of a tree holds for a record exactly if the tree does not. -/
theorem holds_complement {catalogue : Catalogue} {now : DateTime} {record : Value} {t : Group}
    (ht : t.EachCondition (Condition.HasComplement catalogue))
    (hread : t.EachCondition fun c => ¬ c.Degrades catalogue now record) :
    t.complement.holds catalogue now record = !t.holds catalogue now record := by
  induction t with
  | node t ih =>
    obtain ⟨id, connective, conditions, groups⟩ := t
    obtain ⟨hown, hsubs⟩ := eachCondition_iff.1 ht
    obtain ⟨hownRead, hsubsRead⟩ := eachCondition_iff.1 hread
    have hconditions : ∀ c ∈ conditions, c.complement.holds catalogue now record = true ↔
        ¬ c.holds catalogue now record = true := by
      intro c hc
      simp [Condition.holds_complement (hown c hc) (hownRead c hc)]
    have hgroups : ∀ sub ∈ groups, sub.complement.holds catalogue now record = true ↔
        ¬ sub.holds catalogue now record = true := by
      intro sub hsub
      simp [ih sub hsub (hsubs sub hsub) (hsubsRead sub hsub)]
    rw [Bool.eq_iff_iff, Bool.not_eq_true', complement, complementAll_eq, ← Bool.not_eq_true]
    cases connective with
    | and =>
      rw [holds_and, Connective.opposite, holds_or, not_and_or]
      simp only [List.mem_map, exists_exists_and_eq_and, not_forall, exists_prop]
      exact or_congr (exists_congr fun c => and_congr_right (hconditions c))
        (exists_congr fun sub => and_congr_right (hgroups sub))
    | or =>
      rw [holds_or, Connective.opposite, holds_and, List.forall_mem_map, List.forall_mem_map, not_or]
      simp only [not_exists, not_and]
      exact and_congr (forall₂_congr hconditions) (forall₂_congr hgroups)

end Group

namespace Evaluator

/-- If the operator of every condition of a tree has a partner among those that the field allows, then the
complement of the tree holds for exactly the records that the tree does not hold for, as far as no condition
fails on the record. None does if both sides of every condition have a text and, on fields of numbers, are
in range. -/
theorem evaluate_complement (e : Evaluator) {t : Group}
    (ht : t.EachCondition (Condition.HasComplement e.catalogue)) (record : Value) :
    ((t.EachCondition fun c => ¬ c.Degrades e.catalogue e.now.1 record) →
        (e.evaluate t.complement record).1 = !(e.evaluate t record).1) ∧
      (t.EachCondition (Condition.IsReadable e.catalogue record) →
        t.EachCondition fun c => ¬ c.Degrades e.catalogue e.now.1 record) :=
  ⟨fun hread => Group.holds_complement ht hread, fun hread c hc => (hread c hc).not_degrades (ht c hc)⟩

/-- A record without a score to read and without a status, under four conditions at two depths, one of them
on a field that nobody knows, and beside a group without children. -/
theorem evaluate_complement_nested :
    let record : Value := .ofFields [("lead_score", .text "n/a"),
      ("tags", .collection .list [.text "VIP", .bool true])]
    let t : Group := ⟨"root", .and, [⟨"a", "tags", .known .notContains, .text "vip", .null⟩],
      [⟨"inner", .or, [⟨"b", "lead_score", .known .notEquals, .int 5, .null⟩,
        ⟨"c", "status", .known .isIn, .texts ["active"], .null⟩,
        ⟨"d", "shoe_size", .known .isNotEmpty, .null, .null⟩], []⟩, ⟨"none", .and, [], []⟩]⟩
    let e : Evaluator := ⟨.contact, .system, default⟩
    (t.EachCondition (Condition.HasComplement e.catalogue) ∧
      t.EachCondition (Condition.IsReadable e.catalogue record)) ∧
        (e.evaluate t record).1 = false ∧ (e.evaluate t.complement record).1 = true := by
  intro record t e
  have hconditions : t.allConditions = [⟨"a", "tags", .known .notContains, .text "vip", .null⟩,
      ⟨"b", "lead_score", .known .notEquals, .int 5, .null⟩,
      ⟨"c", "status", .known .isIn, .texts ["active"], .null⟩,
      ⟨"d", "shoe_size", .known .isNotEmpty, .null, .null⟩] := rfl
  have ht : t.EachCondition (Condition.HasComplement e.catalogue) := by
    simp only [Group.EachCondition, hconditions, List.forall_mem_cons]
    exact ⟨⟨.notContains, .contains, rfl, rfl, by decide, by decide⟩,
      ⟨.notEquals, .equals, rfl, rfl, by decide, by decide⟩,
      ⟨.isIn, .notIn, rfl, rfl, by decide, by decide⟩,
      ⟨.isNotEmpty, .isEmpty, rfl, rfl, by decide, by decide⟩, fun c hc => by cases hc⟩
  have hrecord : ∀ key, (record.resolve key).HasText := Value.HasText.resolve ⟨_, rfl⟩
  have hscore : record.resolve "lead_score" = .text "n/a" := rfl
  have hread : t.EachCondition (Condition.IsReadable e.catalogue record) := by
    simp only [Group.EachCondition, hconditions, List.forall_mem_cons]
    refine ⟨⟨hrecord _, ⟨_, rfl⟩, fun h => by cases h⟩,
      ⟨hrecord _, Value.hasText_int (n := 5) (by decide), fun _ => ⟨?_, ?_⟩⟩,
      ⟨hrecord _, ⟨_, rfl⟩, fun h => by cases h⟩,
      ⟨hrecord _, ⟨_, rfl⟩, fun h => by cases h⟩, fun c hc => by cases hc⟩
    · rw [hscore]
      trivial
    · change (Binary64.ofInt 5).isFinite = true
      decide
  obtain ⟨hcomplement, hreads⟩ := evaluate_complement e ht record
  have hfalse : (e.evaluate t record).1 = false := by decide +kernel
  exact ⟨⟨ht, hread⟩, hfalse, by rw [hcomplement (hreads hread), hfalse]; rfl⟩

end Evaluator

end Segmentation
