import Mathlib.Data.List.Forall2
import Segmentation.Catalogue.Contact
import Segmentation.Proofs.Catalogue.Operators
import Segmentation.Proofs.Evaluation.Children
import Segmentation.Proofs.Evaluation.Verdict
import Segmentation.Proofs.Value.Nested

/-!
# What evaluation depends on

* `Group.Alike`: trees of one shape whose conditions are related place by place; identifiers have no say.
* `Group.Alike.holds_eq`: if related conditions give the same answer, so do the trees.
* `Comparison.apply_congr`: an operator reads its operands and the reference time only as far as it takes them.
* `Operator.takesValue_iff`, `Operator.takesSecondValue_iff`, `Operator.countsDays_iff`: what it takes it reads.
* `Condition.SameQuestion`: conditions that differ at most in what their operator does not take.
* `Evaluator.evaluate_alike`: evaluation tells apart neither such trees, nor records that agree on the fields of
  the tree, nor, unless days are counted, reference times.
* `Group.holds_of_fields`: a tree gives the same answer for records that agree on its fields.
* `Evaluator.evaluate_flat`: a nested record and its flat form agree on every key that leads to a leaf, or to nothing
  in the nested record, and so does every tree on such fields.
-/

namespace Segmentation

open Calendar

/-! ## Trees of one shape -/

/-- Related elements with the same image make up lists with the same images. -/
theorem map_eq_of_forall₂ {α β γ : Type} {R : α → β → Prop} {f : α → γ} {g : β → γ} {xs : List α}
    {ys : List β} (h : List.Forall₂ R xs ys) (hR : ∀ x ∈ xs, ∀ y, R x y → g y = f x) :
    ys.map g = xs.map f := by
  induction h with
  | nil => rfl
  | @cons x y xs ys hxy _ ih =>
    rw [List.forall_mem_cons] at hR
    rw [List.map_cons, List.map_cons, hR.1 y hxy, ih hR.2]

namespace Group

/-- The trees have the same connectives and the same numbers of children everywhere, and conditions at the same
place are related. -/
inductive Alike (R : Condition → Condition → Prop) : Group → Group → Prop where
  | node {g g' : Group} (hconnective : g'.connective = g.connective)
      (hconditions : List.Forall₂ R g.conditions g'.conditions)
      (hgroups : List.Forall₂ (Alike R) g.groups g'.groups) : Alike R g g'

section Alike

variable {R : Condition → Condition → Prop} {catalogue : Catalogue} {now now' : DateTime}
  {contact contact' : Value} {g g' t t' : Group}

/-- The answer of a group depends on its connective and on the answers of its children. -/
theorem holds_congr (hconnective : g'.connective = g.connective)
    (hanswers : g'.members.map (Child.holds catalogue now' contact') =
      g.members.map (Child.holds catalogue now contact)) :
    g'.holds catalogue now' contact' = g.holds catalogue now contact := by
  cases hand : g.connective with
  | and =>
    rw [holds_eq_all hand, holds_eq_all (hconnective.trans hand), ← Function.id_comp (Child.holds _ _ _),
      ← Function.id_comp (Child.holds catalogue now contact), ← List.all_map, ← List.all_map, hanswers]
  | or =>
    rw [holds_eq_any hand, holds_eq_any (hconnective.trans hand), ← Function.id_comp (Child.holds _ _ _),
      ← Function.id_comp (Child.holds catalogue now contact), ← List.any_map, ← List.any_map, hanswers]

/-- Trees of one shape give the same answer if related conditions do. -/
theorem Alike.holds_eq (h : t.Alike R t')
    (hR : t.EachCondition fun c => ∀ c', R c c' →
      c'.holds catalogue now' contact' = c.holds catalogue now contact) :
    t'.holds catalogue now' contact' = t.holds catalogue now contact := by
  induction t generalizing t' with
  | node t ih =>
    obtain ⟨hown, hsubs⟩ := eachCondition_iff.1 hR
    cases h with
    | node hconnective hconditions hgroups =>
      refine holds_congr hconnective ?_
      rw [members, members, List.map_append, List.map_append, List.map_map, List.map_map, List.map_map,
        List.map_map]
      congr 1
      · exact map_eq_of_forall₂ hconditions hown
      · exact map_eq_of_forall₂ hgroups fun sub hsub sub' halike => ih sub hsub halike (hsubs sub hsub)

end Alike

end Group

/-! ## What an operator reads -/

namespace Operator

@[simp] theorem takesValue_onDates (operator : Operator) :
    operator.onDates.takesValue = operator.takesValue := by
  cases operator <;> rfl

@[simp] theorem takesSecondValue_onDates (operator : Operator) :
    operator.onDates.takesSecondValue = operator.takesSecondValue := by
  cases operator <;> rfl

@[simp] theorem countsDays_onDates (operator : Operator) :
    operator.onDates.countsDays = operator.countsDays := by
  cases operator <;> rfl

/-- By whichever name it goes, an operator takes the same. -/
theorem takes_canonical {catalogue : Catalogue} {key : String} {operator canonical : Operator}
    (h : catalogue.canonicalOperator? key operator = some canonical) :
    canonical.takesValue = operator.takesValue ∧
      canonical.takesSecondValue = operator.takesSecondValue ∧ canonical.countsDays = operator.countsDays := by
  obtain ⟨hcanonical, -⟩ := Catalogue.canonicalOperator?_eq_some.1 h
  by_cases hdate : catalogue.fieldType key = .date
  · rw [if_pos hdate] at hcanonical
    simp [hcanonical]
  · rw [if_neg hdate] at hcanonical
    simp [hcanonical]

end Operator

/-- An operator that takes no value does not read it, one that takes no upper bound does not read that, and one
that counts no days does not read the reference time. -/
theorem Comparison.apply_congr {operator : Operator} {type : FieldType} {raw : Value}
    {expected expected' upper upper' : Operand} {now now' : DateTime}
    (hvalue : operator.takesValue = true → expected' = expected)
    (hupper : operator.takesSecondValue = true → upper' = upper)
    (htime : operator.countsDays = true → now' = now) :
    apply operator type raw expected' upper' now' = apply operator type raw expected upper now := by
  cases operator with
  | isEmpty | isNotEmpty | isTrue | isFalse => rfl
  | between =>
    rw [hvalue rfl, hupper rfl]
    rfl
  | inLastDays | notInLastDays => rw [hvalue rfl, htime rfl]; rfl
  | _ =>
    rw [hvalue rfl]
    rfl

namespace Operator

variable {operator : Operator}

/-- An operator takes a value exactly if its answer may depend on it. -/
theorem takesValue_iff : operator.takesValue = true ↔ ∃ type raw expected expected' upper now,
    Comparison.apply operator type raw expected' upper now ≠
      Comparison.apply operator type raw expected upper now := by
  constructor
  · intro htakes
    -- Each text is a number, two of them are days, and one of them is the stored value.
    let texts : List Operand := [.text "1", .text "30", .text "20261017", .text "30000101"]
    let now : DateTime := .midnight { year := 2026, month := 10, day := 20 }
    have hall : ∀ operator ∈ all, operator.takesValue = true → ∃ expected ∈ texts, ∃ expected' ∈ texts,
        Verdict.ofAnswer (Comparison.apply operator .string (.text "20261017") expected' .null now) ≠
          .ofAnswer (Comparison.apply operator .string (.text "20261017") expected .null now) := by
      decide +kernel
    obtain ⟨expected, -, expected', -, hdiffer⟩ := hall operator operator.mem_all htakes
    exact ⟨_, _, _, _, _, _, mt (congrArg Verdict.ofAnswer) hdiffer⟩
  · intro h
    obtain ⟨type, raw, expected, expected', upper, now, hdiffer⟩ := h
    by_contra hfree
    exact hdiffer (Comparison.apply_congr (absurd · hfree) (fun _ => rfl) fun _ => rfl)

/-- An operator takes an upper bound exactly if its answer may depend on it. -/
theorem takesSecondValue_iff : operator.takesSecondValue = true ↔ ∃ type raw expected upper upper' now,
    Comparison.apply operator type raw expected upper' now ≠
      Comparison.apply operator type raw expected upper now := by
  constructor
  · intro htakes
    have hdiffer : Verdict.ofAnswer (Comparison.apply .between .number (.int 5) (.int 1) (.int 3) default) ≠
        .ofAnswer (Comparison.apply .between .number (.int 5) (.int 1) (.int 9) default) := by decide +kernel
    cases operator with
    | between => exact ⟨_, _, _, _, _, _, mt (congrArg Verdict.ofAnswer) hdiffer⟩
    | _ => cases htakes
  · intro h
    obtain ⟨type, raw, expected, upper, upper', now, hdiffer⟩ := h
    by_contra hfree
    exact hdiffer (Comparison.apply_congr (fun _ => rfl) (absurd · hfree) fun _ => rfl)

/-- An operator counts days exactly if its answer may depend on the reference time. -/
theorem countsDays_iff : operator.countsDays = true ↔ ∃ type raw expected upper now now',
    Comparison.apply operator type raw expected upper now' ≠
      Comparison.apply operator type raw expected upper now := by
  constructor
  · intro hcounts
    let now : DateTime := .midnight { year := 2026, month := 10, day := 18 }
    let later : DateTime := .midnight { year := 2026, month := 10, day := 20 }
    have hall : ∀ operator ∈ all, operator.countsDays = true →
        Verdict.ofAnswer (Comparison.apply operator .date (.text "2026-10-17") (.int 2) .null later) ≠
          .ofAnswer (Comparison.apply operator .date (.text "2026-10-17") (.int 2) .null now) := by
      decide +kernel
    exact ⟨_, _, _, _, _, _, mt (congrArg Verdict.ofAnswer) (hall operator operator.mem_all hcounts)⟩
  · intro h
    obtain ⟨type, raw, expected, upper, now, now', hdiffer⟩ := h
    by_contra hfree
    exact hdiffer (Comparison.apply_congr (fun _ => rfl) (fun _ => rfl) (absurd · hfree))

end Operator

namespace Condition

/-- The conditions ask the same of the same field: they differ at most in their identifiers and in operands
that their operator does not take. -/
structure SameQuestion (c c' : Condition) : Prop where
  field : c'.field = c.field
  operator : c'.operator = c.operator
  value : c.operator.takesValue = true → c'.value = c.value
  value2 : c.operator.takesSecondValue = true → c'.value2 = c.value2

variable {catalogue : Catalogue} {now now' : DateTime} {contact contact' : Value} {c c' : Condition}

theorem SameQuestion.admitted_eq (h : c.SameQuestion c') : c'.admitted catalogue = c.admitted catalogue :=
  admitted_congr h.field h.operator

/-- Conditions that ask the same get the same verdict, also where they are turned down or fail. -/
theorem SameQuestion.verdict_eq (h : c.SameQuestion c')
    (hfield : contact'.resolve c.field = contact.resolve c.field)
    (htime : c.operator.countsDays = true → now' = now) :
    c'.verdict catalogue now' contact' = c.verdict catalogue now contact := by
  cases hadmitted : c.admitted catalogue with
  | error refusal =>
    rw [verdict, verdict, h.admitted_eq, hadmitted]
  | ok canonical =>
    have hadmitted' : c'.admitted catalogue = .ok canonical := h.admitted_eq.trans hadmitted
    obtain ⟨operator, hoperator, hcanonical⟩ := admitted_eq_ok.1 hadmitted
    obtain ⟨htakes, htakesUpper, hcounts⟩ := Operator.takes_canonical hcanonical
    have hvalue := h.value
    have hvalue2 := h.value2
    rw [hoperator] at hvalue hvalue2 htime
    rw [verdict_of_admitted hadmitted, verdict_of_admitted hadmitted', h.field, hfield]
    refine congrArg Verdict.ofAnswer (Comparison.apply_congr ?_ ?_ ?_)
    · rw [htakes]
      exact hvalue
    · rw [htakesUpper]
      exact hvalue2
    · rw [hcounts]
      exact htime

end Condition

/-- Evaluation depends on nothing else: it gives the same answer for two trees that differ at most in
identifiers and in operands that the operators of their conditions do not take, on two records with the same
values in the fields of the tree, and at two reference times unless a condition counts days. -/
theorem Evaluator.evaluate_alike {e e' : Evaluator} {t t' : Group} {record record' : Value}
    (hcatalogue : e'.catalogue = e.catalogue) (htrees : t.Alike Condition.SameQuestion t')
    (hrecords : t.EachCondition fun c => record'.resolve c.field = record.resolve c.field)
    (htimes : e'.now.1 = e.now.1 ∨ t.EachCondition fun c => c.operator.countsDays = false) :
    (e'.evaluate t' record').1 = (e.evaluate t record).1 := by
  rw [evaluate_eq_holds, evaluate_eq_holds, hcatalogue]
  refine htrees.holds_eq fun c hc c' hsame => ?_
  unfold Condition.holds
  rw [hsame.verdict_eq (hrecords c hc)]
  intro hcounts
  rcases htimes with htime | hnone
  · exact htime
  · rw [hnone c hc] at hcounts
    cases hcounts

/-- Two trees that differ in all their identifiers and in what `is_not_empty`, `greater_or_equal` and an operator
without a meaning do not take, a mapping and a record that agree on two fields, and two times. -/
theorem Evaluator.evaluate_alike_nested :
    let e : Evaluator := ⟨.contact, .fixed (.midnight { year := 2026, month := 10, day := 17 }), default⟩
    let e' : Evaluator := ⟨.contact, .ofAnswers [.text "1999-12-31"], default⟩
    let t : Group := ⟨"root", .and, [⟨"a", "email", .known .isNotEmpty, .null, .null⟩],
      [⟨"inner", .or, [⟨"b", "lead_score", .known .between, .int 1, .int 5⟩,
        ⟨"c", "email", .unknown "sounds_like", .text "ann", .null⟩,
        ⟨"d", "lead_score", .known .greaterOrEqual, .int 7, .null⟩], []⟩]⟩
    let t' : Group := ⟨"x", .and, [⟨"x", "email", .known .isNotEmpty, .text "ann", .int 3⟩],
      [⟨"x", .or, [⟨"x", "lead_score", .known .between, .int 1, .int 5⟩,
        ⟨"x", "email", .unknown "sounds_like", .text "ann", .bool true⟩,
        ⟨"x", "lead_score", .known .greaterOrEqual, .int 7, .texts ["9"]⟩], []⟩]⟩
    let record : Value := .ofFields [("email", .text "ann@x.org"), ("lead_score", .int 7)]
    let record' : Value := .record [("phone", .text "5550"), ("lead_score", .int 7), ("email", .text "ann@x.org")]
    (e'.catalogue = e.catalogue ∧ t.Alike Condition.SameQuestion t' ∧
      (t.EachCondition fun c => record'.resolve c.field = record.resolve c.field) ∧
      t.EachCondition fun c => c.operator.countsDays = false) ∧
        (e'.evaluate t' record').1 = (e.evaluate t record).1 ∧ (e.evaluate t record).1 = true := by
  intro e e' t t' record record'
  have hconditions : t.allConditions = [⟨"a", "email", .known .isNotEmpty, .null, .null⟩,
      ⟨"b", "lead_score", .known .between, .int 1, .int 5⟩,
      ⟨"c", "email", .unknown "sounds_like", .text "ann", .null⟩,
      ⟨"d", "lead_score", .known .greaterOrEqual, .int 7, .null⟩] := rfl
  have htrees : t.Alike Condition.SameQuestion t' := by
    refine .node rfl (.cons ⟨rfl, rfl, nofun, nofun⟩ .nil) (.cons (.node rfl ?_ .nil) .nil)
    exact .cons ⟨rfl, rfl, fun _ => rfl, fun _ => rfl⟩ (.cons ⟨rfl, rfl, fun _ => rfl, nofun⟩
      (.cons ⟨rfl, rfl, fun _ => rfl, nofun⟩ .nil))
  have hrecords : t.EachCondition fun c => record'.resolve c.field = record.resolve c.field := by
    simp only [Group.EachCondition, hconditions, List.forall_mem_cons]
    exact ⟨rfl, rfl, rfl, rfl, fun c hc => by cases hc⟩
  have htimes : t.EachCondition fun c => c.operator.countsDays = false := by
    simp only [Group.EachCondition, hconditions, List.forall_mem_cons]
    exact ⟨rfl, rfl, rfl, rfl, fun c hc => by cases hc⟩
  have hsame : (e'.evaluate t' record').1 = (e.evaluate t record).1 :=
    evaluate_alike rfl htrees hrecords (.inr htimes)
  exact ⟨⟨rfl, htrees, hrecords, htimes⟩, hsame, by decide +kernel⟩

end Segmentation

/-! ## Nested and flat records -/

namespace Segmentation

open Calendar

namespace Group

variable {R : Condition → Condition → Prop} {catalogue : Catalogue} {now : DateTime} {record record' : Value}

/-- A tree has the shape of itself. -/
theorem alike_self (hR : ∀ c, R c c) (t : Group) : t.Alike R t := by
  induction t with
  | node t ih => exact .node rfl (List.forall₂_same.2 fun c _ => hR c) (List.forall₂_same.2 ih)

/-- A tree gives the same answer for records that agree on its fields. -/
theorem holds_of_fields {t : Group}
    (hfields : t.EachCondition fun c => record'.resolve c.field = record.resolve c.field) :
    t.holds catalogue now record' = t.holds catalogue now record := by
  refine (t.alike_self (R := Condition.SameQuestion) fun c => ⟨rfl, rfl, fun _ => rfl, fun _ => rfl⟩).holds_eq
    fun c hc c' hsame => ?_
  unfold Condition.holds
  rw [hsame.verdict_eq (hfields c hc) fun _ => rfl]

end Group

/-- The key is that of a leaf, or it is neither on the way to a leaf nor beyond one. -/
def Value.Settles (r : Value) (key : String) : Prop :=
  (∃ found ∈ r.leaves, key = Text.join "." found.1) ∨ r.Apart (Text.split key '.')

/-- In a nested record and in its flat form the joined path of a leaf leads to the leaf, and a key that is on the way
to no leaf and beyond none leads to nothing. Trees on such fields are evaluated alike for both. -/
theorem Evaluator.evaluate_flat {r : Value} (hr : r.IsNestedRecord) :
    (∀ path leaf, (path, leaf) ∈ r.leaves →
      r.resolve (Text.join "." path) = leaf ∧ r.flat.resolve (Text.join "." path) = leaf) ∧
    (∀ key, r.Apart (Text.split key '.') → r.resolve key = .null ∧ r.flat.resolve key = .null) ∧
    ∀ (e : Evaluator) (t : Group), (t.EachCondition fun c => r.Settles c.field) →
      (e.evaluate t r.flat).1 = (e.evaluate t r).1 := by
  refine ⟨fun path leaf hleaf => ⟨hr.resolve_leaf hleaf, hr.resolve_flat_leaf hleaf⟩,
    fun key hapart => ⟨hr.resolve_apart hapart, hr.resolve_flat_apart hapart⟩, fun e t hsettles => ?_⟩
  rw [evaluate_eq_holds, evaluate_eq_holds]
  refine Group.holds_of_fields fun c hc => ?_
  rcases hsettles c hc with ⟨⟨path, leaf⟩, hleaf, hkey⟩ | hapart
  · rw [hkey, hr.resolve_leaf hleaf, hr.resolve_flat_leaf hleaf]
  · rw [hr.resolve_apart hapart, hr.resolve_flat_apart hapart]

/-- A record of three levels with an absent leaf under an empty name, a tree that asks for leaves of it, and for a
field that it does not have. -/
theorem Evaluator.evaluate_flat_balance :
    let r : Value := .ofFields [("email", .text "ann@x.org"),
      ("cashback_info", .ofFields [("current_balance", .int 50), ("", .null)]),
      ("stats", .ofFields [("mail", .ofFields [("opens", .int 3)])])]
    let e : Evaluator := ⟨.contact, .fixed default, default⟩
    let t : Group := ⟨"g", .and, [⟨"a", "cashback_info.current_balance", .known .greaterOrEqual, .int 50, .null⟩,
      ⟨"b", "cashback_info.", .known .isEmpty, .null, .null⟩, ⟨"c", "stats.mail.clicks", .known .isEmpty, .null, .null⟩],
      []⟩
    (r.IsNestedRecord ∧ r.leaves = [(["email"], .text "ann@x.org"), (["cashback_info", "current_balance"], .int 50),
        (["cashback_info", ""], .null), (["stats", "mail", "opens"], .int 3)] ∧
        t.EachCondition fun c => r.Settles c.field) ∧
      (r.resolve "cashback_info.current_balance" = .int 50 ∧ r.flat.resolve "cashback_info.current_balance" = .int 50) ∧
      (r.resolve "stats.mail.clicks" = .null ∧ r.flat.resolve "stats.mail.clicks" = .null) ∧
      (e.evaluate t r.flat).1 = (e.evaluate t r).1 ∧ (e.evaluate t r).1 = true := by
  intro r e t
  have hnone : ∀ field ∈ ([] : List (String × Value)), field.2.IsNested := fun field hfield => by cases hfield
  have hbalance : (Value.ofFields [("current_balance", .int 50), ("", .null)]).IsNested :=
    .mapping (List.cons_ne_nil _ _) ⟨by decide, by decide⟩
      (List.forall_mem_cons.2 ⟨.leaf trivial, List.forall_mem_cons.2 ⟨.leaf trivial, hnone⟩⟩)
  have hmail : (Value.ofFields [("opens", .int 3)]).IsNested :=
    .mapping (List.cons_ne_nil _ _) ⟨by decide, by decide⟩ (List.forall_mem_cons.2 ⟨.leaf trivial, hnone⟩)
  have hstats : (Value.ofFields [("mail", .ofFields [("opens", .int 3)])]).IsNested :=
    .mapping (List.cons_ne_nil _ _) ⟨by decide, by decide⟩ (List.forall_mem_cons.2 ⟨hmail, hnone⟩)
  have hr : r.IsNestedRecord :=
    ⟨_, rfl, ⟨by decide, by decide⟩, List.forall_mem_cons.2 ⟨.leaf trivial, List.forall_mem_cons.2 ⟨hbalance,
      List.forall_mem_cons.2 ⟨hstats, hnone⟩⟩⟩⟩
  have hleaves : r.leaves = [(["email"], .text "ann@x.org"), (["cashback_info", "current_balance"], .int 50),
      (["cashback_info", ""], .null), (["stats", "mail", "opens"], .int 3)] := rfl
  have hbalanceLeaf : (["cashback_info", "current_balance"], Value.int 50) ∈ r.leaves := by
    rw [hleaves]
    exact List.mem_cons_of_mem _ List.mem_cons_self
  have hemptyLeaf : (["cashback_info", ""], Value.null) ∈ r.leaves := by
    rw [hleaves]
    exact List.mem_cons_of_mem _ (List.mem_cons_of_mem _ List.mem_cons_self)
  have hclicks : r.Apart (Text.split "stats.mail.clicks" '.') := by
    unfold Value.Apart
    rw [hleaves]
    simp only [List.forall_mem_cons]
    exact ⟨by decide, by decide, by decide, by decide, fun found hfound => by cases hfound⟩
  have hsettles : t.EachCondition fun c => r.Settles c.field := by
    have hconditions : t.allConditions = t.conditions := rfl
    rw [Group.EachCondition, hconditions]
    exact List.forall_mem_cons.2 ⟨.inl ⟨_, hbalanceLeaf, rfl⟩, List.forall_mem_cons.2 ⟨.inl ⟨_, hemptyLeaf, rfl⟩,
      List.forall_mem_cons.2 ⟨.inr hclicks, fun c hc => by cases hc⟩⟩⟩
  obtain ⟨hleaf, hapart, hevaluate⟩ := evaluate_flat hr
  exact ⟨⟨hr, hleaves, hsettles⟩, hleaf _ _ hbalanceLeaf, hapart _ hclicks, hevaluate e t hsettles, by decide +kernel⟩

end Segmentation
