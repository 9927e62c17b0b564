import Mathlib.Data.List.Perm.Basic
import Segmentation.Catalogue.Contact
import Segmentation.Proofs.Evaluation.Monotone

/-!
# Audiences child by child

* `Group.holds_eq_all`, `Group.holds_eq_any`: a group holds if all of its children do, or if one of them does.
* `Group.exists_child_holds_eq`: with a child at all, the answer of a group is that of one of its children.
* `foldl_filter_eq`: records sifted by several questions in turn are those that pass all of them.
* `Evaluator.SameReading`: two evaluators that are about to see one and the same time.
* `Evaluator.filter_algebra`: one reading of the clock for all records, and the laws of selecting at it.
-/

namespace Segmentation

open Calendar

/-! ## Children -/

/-- A child of a group: one of its conditions or one of its sub-groups. -/
inductive Child where
  | condition (c : Condition)
  | group (g : Group)

/-- The child holds for a record at a reference time. -/
def Child.holds (catalogue : Catalogue) (now : DateTime) (contact : Value) : Child → Bool
  | condition c => c.holds catalogue now contact
  | group g => g.holds catalogue now contact

namespace Group

/-- The children of a group in the order in which they are asked: conditions before sub-groups. -/
def members (g : Group) : List Child :=
  g.conditions.map .condition ++ g.groups.map .group

variable {catalogue : Catalogue} {now : DateTime} {contact : Value} {g : Group}

theorem forall_mem_members {p : Child → Prop} :
    (∀ child ∈ g.members, p child) ↔
      (∀ c ∈ g.conditions, p (.condition c)) ∧ ∀ sub ∈ g.groups, p (.group sub) := by
  rw [members, List.forall_mem_append, List.forall_mem_map, List.forall_mem_map]

theorem exists_mem_members {p : Child → Prop} :
    (∃ child ∈ g.members, p child) ↔
      (∃ c ∈ g.conditions, p (.condition c)) ∨ ∃ sub ∈ g.groups, p (.group sub) := by
  simp [members, or_and_right, exists_or]

theorem members_eq_nil : g.members = [] ↔ g.isVacuous = true := by
  simp [members, isVacuous]

theorem holds_eq_all (hand : g.connective = .and) :
    g.holds catalogue now contact = g.members.all (Child.holds catalogue now contact) := by
  obtain ⟨id, connective, conditions, groups⟩ := g
  cases hand
  rw [Bool.eq_iff_iff, List.all_eq_true, forall_mem_members, holds_and]
  rfl

theorem holds_eq_any (hor : g.connective = .or) :
    g.holds catalogue now contact = g.members.any (Child.holds catalogue now contact) := by
  obtain ⟨id, connective, conditions, groups⟩ := g
  cases hor
  rw [Bool.eq_iff_iff, List.any_eq_true, exists_mem_members, holds_or]
  rfl

/-- The answer of a group with children is the answer of one of them. -/
theorem exists_child_holds_eq (hchild : g.isVacuous = false) :
    ∃ child ∈ g.members, child.holds catalogue now contact = g.holds catalogue now contact := by
  have hne : g.members ≠ [] := by
    intro hnil
    rw [members_eq_nil.1 hnil] at hchild
    cases hchild
  obtain ⟨first, hfirst⟩ := List.exists_mem_of_ne_nil _ hne
  cases hconnective : g.connective with
  | and =>
    rw [holds_eq_all hconnective]
    cases hall : g.members.all (Child.holds catalogue now contact) with
    | true => exact ⟨first, hfirst, List.all_eq_true.1 hall first hfirst⟩
    | false => simpa using hall
  | or =>
    rw [holds_eq_any hconnective]
    cases hany : g.members.any (Child.holds catalogue now contact) with
    | true => simpa using hany
    | false => exact ⟨first, hfirst, by simpa using List.any_eq_false.1 hany first hfirst⟩

end Group

/-! ## Sifting by several questions -/

/-- Records that are sifted by one question after the other are those that pass all of them. -/
theorem foldl_filter_eq {α β : Type} (passes : β → α → Bool) (questions : List β) (xs : List α) :
    questions.foldl (fun kept q => kept.filter (passes q)) xs =
      xs.filter fun x => questions.all (passes · x) := by
  induction questions generalizing xs with
  | nil => simp
  | cons q questions ih =>
    rw [List.foldl_cons, ih, List.filter_filter]
    refine List.filter_congr fun x _ => ?_
    rw [List.all_cons, Bool.and_comm]

namespace Evaluator

variable {e e' : Evaluator} {g : Group} {contacts : List Value}

/-- Whether a child holds for a record: a condition is judged, a sub-group evaluated. -/
def answer (e : Evaluator) : Child → Value → Bool
  | .condition c, contact => (e.judge c contact).1.holds
  | .group g, contact => (e.evaluate g contact).1

/-- The evaluators have one catalogue and are about to see one and the same time, whatever their clocks show
later. -/
structure SameReading (e e' : Evaluator) : Prop where
  catalogue : e'.catalogue = e.catalogue
  time : e'.now.1 = e.now.1

theorem answer_eq (e : Evaluator) (child : Child) (contact : Value) :
    e.answer child contact = child.holds e.catalogue e.now.1 contact := by
  cases child <;> rfl

theorem evaluate_eq_holds (e : Evaluator) (g : Group) (contact : Value) :
    (e.evaluate g contact).1 = g.holds e.catalogue e.now.1 contact :=
  rfl

theorem SameReading.evaluate_eq (h : e.SameReading e') (g : Group) (contact : Value) :
    (e'.evaluate g contact).1 = (e.evaluate g contact).1 := by
  rw [evaluate_eq_holds, evaluate_eq_holds, h.catalogue, h.time]

theorem SameReading.answer_eq (h : e.SameReading e') (child : Child) (contact : Value) :
    e'.answer child contact = e.answer child contact := by
  rw [Evaluator.answer_eq, Evaluator.answer_eq, h.catalogue, h.time]

theorem SameReading.filter_eq (h : e.SameReading e') (g : Group) (contacts : List Value) :
    (e'.filter g contacts).1 = contacts.filter fun contact => (e.evaluate g contact).1 := by
  rw [Evaluator.filter_eq, h.catalogue, h.time]
  rfl

theorem count_eq_length (e : Evaluator) (g : Group) (contacts : List Value) :
    (e.count g contacts).1 = (e.filter g contacts).1.length := by
  rw [filter_eq, ← List.countP_eq_length_filter]
  rfl

/-- Under AND the children sift the records one after the other, in any order. -/
theorem filter_eq_foldl (hand : g.connective = .and) {children : List Child}
    (hchildren : children.Perm g.members) (contacts : List Value) :
    (e.filter g contacts).1 =
      children.foldl (fun kept child => kept.filter (e.answer child)) contacts := by
  rw [foldl_filter_eq, filter_eq]
  refine List.filter_congr fun contact _ => ?_
  rw [Group.holds_eq_all hand, ← hchildren.all_eq]
  exact congrArg children.all (funext fun child => (answer_eq e child contact).symm)

/-- Under OR those records are kept that some child keeps. -/
theorem filter_eq_any (hor : g.connective = .or) (contacts : List Value) :
    (e.filter g contacts).1 =
      contacts.filter fun contact => g.members.any fun child => e.answer child contact := by
  rw [filter_eq]
  refine List.filter_congr fun contact _ => ?_
  rw [Group.holds_eq_any hor]
  exact congrArg g.members.any (funext fun child => (answer_eq e child contact).symm)

/-- Selecting and counting take one reading of the clock each, however many records there are, and no other
answer of the clock has a say in them. At one and the same reading they agree with evaluation record by record:
the records that are kept are those that the group holds for, in their order, and their number is the count.
Kept records are kept again, and the records of two lists are kept list by list. Under AND the children of the
group sift the records one after the other, in any order; under OR those are kept that some child keeps. -/
theorem filter_algebra (e : Evaluator) (g : Group) (contacts : List Value) :
    ((e.filter g contacts).2 = { e with clock := { e.clock with asked := e.clock.asked + 1 } } ∧
      (e.count g contacts).2 = { e with clock := { e.clock with asked := e.clock.asked + 1 } }) ∧
    ∀ e', e.SameReading e' →
      ((e.filter g contacts).1 = contacts.filter fun contact => (e'.evaluate g contact).1) ∧
      (e.count g contacts).1 = (e'.filter g contacts).1.length ∧
      (e'.filter g (e.filter g contacts).1).1 = (e.filter g contacts).1 ∧
      (∀ more, (e.filter g (contacts ++ more)).1 = (e.filter g contacts).1 ++ (e'.filter g more).1) ∧
      (match g.connective with
        | .and => ∀ children : List Child, children.Perm g.members →
          (e.filter g contacts).1 =
            children.foldl (fun kept child => kept.filter (e'.answer child)) contacts
        | .or => (e.filter g contacts).1 =
          contacts.filter fun contact => g.members.any fun child => e'.answer child contact) := by
  refine ⟨⟨rfl, rfl⟩, fun e' h => ⟨?_, ?_, ?_, ?_, ?_⟩⟩
  · simp only [h.evaluate_eq]
    rfl
  · rw [h.filter_eq, count_eq_length]
    rfl
  · rw [h.filter_eq, filter_eq, List.filter_filter]
    exact List.filter_congr fun contact _ => Bool.and_self _
  · intro more
    rw [h.filter_eq, filter_eq, List.filter_append]
    rfl
  · have hanswer : e'.answer = e.answer := funext fun child => funext fun contact => h.answer_eq child contact
    rw [hanswer]
    cases hconnective : g.connective with
    | and =>
      intro children hchildren
      exact filter_eq_foldl hconnective hchildren contacts
    | or => exact filter_eq_any hconnective contacts

/-- With a clock that shows another time at every question: of three records, one of them there twice, the
sub-group and then the condition keep the two that were created in the last week. -/
theorem filter_algebra_moving_clock :
    let time : DateTime := .midnight { year := 2026, month := 10, day := 17 }
    let e : Evaluator := ⟨.contact, .ofAnswers [.datetime time, .text "1970-01-01", .null], default⟩
    let e' : Evaluator := ⟨.contact, .fixed time, default⟩
    let recent : Condition := ⟨"c", "created_at", .known .inLastDays, .int 7, .null⟩
    let named : Group := ⟨"h", .or, [⟨"d", "email", .known .isNotEmpty, .null, .null⟩], []⟩
    let g : Group := ⟨"g", .and, [recent], [named]⟩
    let ann : Value := .ofFields [("created_at", .text "2026-10-12"), ("email", .text "ann@x.org")]
    let bob : Value := .ofFields [("created_at", .text "2026-10-01"), ("email", .text "bob@x.org")]
    (e.SameReading e' ∧ [.group named, .condition recent].Perm g.members) ∧
      (e.filter g [ann, bob, ann]).1 =
        [.group named, .condition recent].foldl (fun kept child => kept.filter (e'.answer child))
          [ann, bob, ann] ∧
      (e'.filter g (e.filter g [ann, bob, ann]).1).1 = (e.filter g [ann, bob, ann]).1 ∧
      (e.filter g [ann, bob, ann]).1.length = 2 := by
  intro time e e' recent named g ann bob
  have hsame : e.SameReading e' := ⟨rfl, rfl⟩
  have hperm : [Child.group named, .condition recent].Perm g.members := .swap _ _ _
  obtain ⟨-, -, hagain, -, hsift⟩ := (filter_algebra e g [ann, bob, ann]).2 e' hsame
  exact ⟨⟨hsame, hperm⟩, hsift _ hperm, hagain, by decide +kernel⟩

end Evaluator

end Segmentation
