import Segmentation.Proofs.Evaluation.Complement
import Segmentation.Proofs.Evaluation.Failures
import Segmentation.Proofs.Evaluation.Independence

/-!
# Failures stay with their condition

* `Condition.attempt`, `Group.attempt`: evaluation that goes on only after errors of the kinds that it handles.
* `GivesOr`: a computation that ends with a given answer or with one of some errors.
* `Group.attempt_gives`: only a condition that fails with an error that is not handled ends an evaluation.
* `Group.attempt_total_iff`: no evaluation is ended exactly if bad values and overflows are handled.
* `Evaluator.evaluate_contained`: evaluation handles what occurs, and a failure stays with its condition.
-/

namespace Segmentation

open Calendar

/-! ## Evaluation that errors can end -/

/-- The kinds of errors that evaluation tells apart. -/
inductive ErrorKind where
  /-- A value has the wrong type. -/
  | type
  /-- A value of the right type is no good. -/
  | value
  /-- A result is too large. -/
  | overflow
  /-- A table has no entry for a key. -/
  | lookup
deriving DecidableEq

/-- The kinds of errors after which evaluation goes on. -/
def ErrorKind.handled : List ErrorKind :=
  [type, value, overflow]

/-- The kind of error as which a failure shows. -/
def Failure.kind : Failure → ErrorKind
  | integerTooLong | signallingNan => .value
  | numberTooLarge | spanTooLong | dayOutOfRange => .overflow

/-- Whether the condition holds. A type for which the catalogue lists no operators is an error, and so is a
failure of the operator; errors of the kinds that are handled make the condition false. -/
def Condition.attempt (handled : List ErrorKind) (catalogue : Catalogue) (now : DateTime) (contact : Value)
    (c : Condition) : Except ErrorKind Bool :=
  match c.operator with
  | .unknown _ => .ok false
  | .known _ =>
    match catalogue.operators.find? (·.1 = catalogue.fieldType c.field) with
    | none => .error .lookup
    | some _ =>
      match c.verdict catalogue now contact with
      | .failed cause => if cause.kind ∈ handled then .ok false else .error cause.kind
      | verdict => .ok verdict.holds

namespace Group

mutual

/-- Whether the group holds. Children behind the one that settles the answer are not asked. -/
def attempt (handled : List ErrorKind) (catalogue : Catalogue) (now : DateTime) (contact : Value) :
    Group → Except ErrorKind Bool
  | ⟨_, .and, conditions, groups⟩ => do
    if ← conditions.allM (·.attempt handled catalogue now contact) then
      attemptAll handled catalogue now contact groups
    else return false
  | ⟨_, .or, conditions, groups⟩ => do
    if ← conditions.anyM (·.attempt handled catalogue now contact) then return true
    else attemptAny handled catalogue now contact groups

/-- Whether all groups hold. -/
def attemptAll (handled : List ErrorKind) (catalogue : Catalogue) (now : DateTime) (contact : Value) :
    List Group → Except ErrorKind Bool
  | [] => .ok true
  | g :: gs => do
    if ← attempt handled catalogue now contact g then attemptAll handled catalogue now contact gs
    else return false

/-- Whether some group holds. -/
def attemptAny (handled : List ErrorKind) (catalogue : Catalogue) (now : DateTime) (contact : Value) :
    List Group → Except ErrorKind Bool
  | [] => .ok false
  | g :: gs => do
    if ← attempt handled catalogue now contact g then return true
    else attemptAny handled catalogue now contact gs

end

/-- The records that the group holds for, asked one after the other. -/
def attemptAudience (handled : List ErrorKind) (catalogue : Catalogue) (now : DateTime) (g : Group) :
    List Value → Except ErrorKind (List Value)
  | [] => .ok []
  | contact :: contacts => do
    let answer ← g.attempt handled catalogue now contact
    let kept ← attemptAudience handled catalogue now g contacts
    return if answer then contact :: kept else kept

end Group

namespace Evaluator

/-- Whether a group holds for a record, unless an error ends the evaluation. -/
def attempt (handled : List ErrorKind) (e : Evaluator) (g : Group) (contact : Value) :
    Except ErrorKind (Bool × Evaluator) := do
  let (time, e) := e.now
  return (← g.attempt handled e.catalogue time contact, e)

/-- The records that a group holds for, unless an error ends the pass. -/
def attemptFilter (handled : List ErrorKind) (e : Evaluator) (g : Group) (contacts : List Value) :
    Except ErrorKind (List Value × Evaluator) := do
  let (time, e) := e.now
  return (← g.attemptAudience handled e.catalogue time contacts, e)

/-- The number of records that a group holds for, unless an error ends the pass. -/
def attemptCount (handled : List ErrorKind) (e : Evaluator) (g : Group) (contacts : List Value) :
    Except ErrorKind (Nat × Evaluator) := do
  let (kept, e) ← e.attemptFilter handled g contacts
  return (kept.length, e)

end Evaluator

/-! ## Answers and errors -/

/-- The computation ends with the answer or with an error that has the property. -/
def GivesOr {α : Type} (answer : α) (p : ErrorKind → Prop) : Except ErrorKind α → Prop
  | .ok a => a = answer
  | .error kind => p kind

namespace GivesOr

variable {α β : Type} {answer : α} {p q : ErrorKind → Prop} {x : Except ErrorKind α}

theorem mono (hx : GivesOr answer p x) (hpq : ∀ kind, p kind → q kind) : GivesOr answer q x := by
  cases x with
  | ok a => exact hx
  | error kind => exact hpq kind hx

theorem bind {next : α → Except ErrorKind β} {result : β} (hx : GivesOr answer p x)
    (hnext : GivesOr result p (next answer)) : GivesOr result p (x >>= next) := by
  cases x with
  | ok a =>
    have ha : a = answer := hx
    rw [ha]
    exact hnext
  | error kind => exact hx

theorem allM {f : α → Except ErrorKind Bool} {holds : α → Bool} {xs : List α}
    (h : ∀ a ∈ xs, GivesOr (holds a) p (f a)) : GivesOr (xs.all holds) p (xs.allM f) := by
  induction xs with
  | nil => rfl
  | cons a xs ih =>
    rw [List.forall_mem_cons] at h
    rw [List.allM_cons, List.all_cons]
    refine h.1.bind ?_
    cases holds a with
    | true => exact ih h.2
    | false => rfl

theorem anyM {f : α → Except ErrorKind Bool} {holds : α → Bool} {xs : List α}
    (h : ∀ a ∈ xs, GivesOr (holds a) p (f a)) : GivesOr (xs.any holds) p (xs.anyM f) := by
  induction xs with
  | nil => rfl
  | cons a xs ih =>
    rw [List.forall_mem_cons] at h
    rw [List.anyM_cons, List.any_cons]
    refine h.1.bind ?_
    cases holds a with
    | true => rfl
    | false => exact ih h.2

theorem eq_ok (hx : GivesOr answer p x) (hp : ∀ kind, ¬ p kind) : x = .ok answer := by
  cases x with
  | ok a => exact congrArg Except.ok hx
  | error kind => exact absurd hx (hp kind)

end GivesOr

/-! ## What ends an evaluation -/

/-- The condition fails on the record with an error of the kind, and the kind is not handled. -/
def Condition.Escapes (handled : List ErrorKind) (catalogue : Catalogue) (now : DateTime) (contact : Value)
    (c : Condition) (kind : ErrorKind) : Prop :=
  kind ∉ handled ∧ ∃ cause, c.verdict catalogue now contact = .failed cause ∧ cause.kind = kind

/-- A condition of the tree fails on the record with an error of the kind, and the kind is not handled. -/
def Group.Escapes (handled : List ErrorKind) (catalogue : Catalogue) (now : DateTime) (contact : Value)
    (t : Group) (kind : ErrorKind) : Prop :=
  ∃ c ∈ t.allConditions, c.Escapes handled catalogue now contact kind

variable {handled : List ErrorKind} {catalogue : Catalogue} {now : DateTime} {contact : Value}

/-- The catalogue lists operators for every type. -/
theorem Catalogue.exists_find?_operators (catalogue : Catalogue) (type : FieldType) :
    ∃ entry, catalogue.operators.find? (·.1 = type) = some entry := by
  cases hfind : catalogue.operators.find? (·.1 = type) with
  | some entry => exact ⟨entry, rfl⟩
  | none =>
    have hnil : catalogue.operatorsForType type = [] := by
      rw [operatorsForType, operatorsIn, hfind]
      rfl
    exact absurd hnil (catalogue.operatorsForType_ne_nil type)

/-- A condition is answered unless its operator fails with an error that is not handled. -/
theorem Condition.attempt_gives (c : Condition) :
    GivesOr (c.holds catalogue now contact) (c.Escapes handled catalogue now contact)
      (c.attempt handled catalogue now contact) := by
  unfold attempt
  cases hoperator : c.operator with
  | unknown name =>
    show false = c.holds catalogue now contact
    rw [holds, verdict, admitted, hoperator]
    rfl
  | known operator =>
    obtain ⟨entry, hentry⟩ := catalogue.exists_find?_operators (catalogue.fieldType c.field)
    dsimp only
    rw [hentry, holds]
    dsimp only
    cases hverdict : c.verdict catalogue now contact with
    | failed cause =>
      dsimp only
      by_cases hhandled : cause.kind ∈ handled
      · rw [if_pos hhandled]
        rfl
      · rw [if_neg hhandled]
        exact ⟨hhandled, cause, hverdict, rfl⟩
    | _ => rfl

namespace Group

theorem attemptAll_eq (gs : List Group) : attemptAll handled catalogue now contact gs =
    gs.allM (attempt handled catalogue now contact) := by
  induction gs with
  | nil => rfl
  | cons g gs ih =>
    rw [attemptAll, ih, List.allM_cons]

theorem attemptAny_eq (gs : List Group) : attemptAny handled catalogue now contact gs =
    gs.anyM (attempt handled catalogue now contact) := by
  induction gs with
  | nil => rfl
  | cons g gs ih =>
    rw [attemptAny, ih, List.anyM_cons]

theorem allHold_eq (gs : List Group) :
    allHold catalogue now contact gs = gs.all (holds catalogue now contact) := by
  rw [Bool.eq_iff_iff, allHold_iff, List.all_eq_true]

theorem anyHolds_eq (gs : List Group) :
    anyHolds catalogue now contact gs = gs.any (holds catalogue now contact) := by
  rw [Bool.eq_iff_iff, anyHolds_iff, List.any_eq_true]

theorem Escapes.of_condition {t : Group} {c : Condition} {kind : ErrorKind} (hc : c ∈ t.conditions)
    (h : c.Escapes handled catalogue now contact kind) : t.Escapes handled catalogue now contact kind := by
  refine ⟨c, ?_, h⟩
  rw [allConditions_eq]
  exact List.mem_append_left _ hc

theorem Escapes.of_group {t sub : Group} {kind : ErrorKind} (hsub : sub ∈ t.groups)
    (h : sub.Escapes handled catalogue now contact kind) : t.Escapes handled catalogue now contact kind := by
  obtain ⟨c, hc, hescapes⟩ := h
  refine ⟨c, ?_, hescapes⟩
  rw [allConditions_eq]
  exact List.mem_append_right _ (List.mem_flatMap.2 ⟨sub, hsub, hc⟩)

/-- Only a condition of the tree that fails with an error that is not handled ends an evaluation. -/
theorem attempt_gives (t : Group) :
    GivesOr (t.holds catalogue now contact) (t.Escapes handled catalogue now contact)
      (t.attempt handled catalogue now contact) := by
  induction t with
  | node t ih =>
    have hconditions : ∀ c ∈ t.conditions, GivesOr (c.holds catalogue now contact)
        (t.Escapes handled catalogue now contact) (c.attempt handled catalogue now contact) :=
      fun c hc => c.attempt_gives.mono fun _ => Escapes.of_condition hc
    have hgroups : ∀ sub ∈ t.groups, GivesOr (sub.holds catalogue now contact)
        (t.Escapes handled catalogue now contact) (sub.attempt handled catalogue now contact) :=
      fun sub hsub => (ih sub hsub).mono fun _ => Escapes.of_group hsub
    -- From here on it does not matter which errors these are.
    generalize t.Escapes handled catalogue now contact = escapes at hconditions hgroups ⊢
    obtain ⟨id, connective, conditions, groups⟩ := t
    cases connective with
    | and =>
      rw [attempt, holds, attemptAll_eq, allHold_eq]
      refine (GivesOr.allM hconditions).bind ?_
      cases conditions.all (·.holds catalogue now contact) with
      | true => exact GivesOr.allM hgroups
      | false => rfl
    | or =>
      rw [attempt, holds, attemptAny_eq, anyHolds_eq]
      refine (GivesOr.anyM hconditions).bind ?_
      cases conditions.any (·.holds catalogue now contact) with
      | true => rfl
      | false => exact GivesOr.anyM hgroups

/-- With a handler for bad values and overflows no evaluation is ended. -/
theorem attempt_eq_ok (hvalue : .value ∈ handled) (hoverflow : .overflow ∈ handled) (t : Group)
    (contact : Value) :
    t.attempt handled catalogue now contact = .ok (t.holds catalogue now contact) := by
  refine t.attempt_gives.eq_ok fun kind hkind => ?_
  obtain ⟨c, -, hunhandled, cause, -, hcause⟩ := hkind
  rw [← hcause] at hunhandled
  cases cause with
  | integerTooLong | signallingNan => exact hunhandled hvalue
  | numberTooLarge | spanTooLong | dayOutOfRange => exact hunhandled hoverflow

theorem attemptAudience_eq_ok (hvalue : .value ∈ handled) (hoverflow : .overflow ∈ handled) (t : Group)
    (contacts : List Value) :
    t.attemptAudience handled catalogue now contacts = .ok (t.audience catalogue now contacts) := by
  induction contacts with
  | nil => rfl
  | cons contact contacts ih =>
    have hcons : t.audience catalogue now (contact :: contacts) =
        if t.holds catalogue now contact then contact :: t.audience catalogue now contacts
        else t.audience catalogue now contacts := List.filter_cons
    rw [attemptAudience, attempt_eq_ok hvalue hoverflow, ih, hcons]
    rfl

end Group

/-- A condition that fails with an error that is not handled ends its evaluation. -/
theorem Condition.Escapes.attempt_eq {c : Condition} {kind : ErrorKind}
    (h : c.Escapes handled catalogue now contact kind) :
    c.attempt handled catalogue now contact = .error kind := by
  obtain ⟨hunhandled, cause, hverdict, hkind⟩ := h
  cases hoperator : c.operator with
  | unknown name =>
    rw [verdict, admitted, hoperator] at hverdict
    cases hverdict
  | known operator =>
    obtain ⟨entry, hentry⟩ := catalogue.exists_find?_operators (catalogue.fieldType c.field)
    rw [← hkind] at hunhandled ⊢
    simp only [attempt, hoperator, hentry, hverdict, if_neg hunhandled]

/-- A handler is enough for all trees and records if and only if it handles bad values and overflows. -/
theorem Group.attempt_total_iff :
    (∀ (now : DateTime) (t : Group) (contact : Value), ∃ answer,
        t.attempt handled .contact now contact = .ok answer) ↔
      .value ∈ handled ∧ .overflow ∈ handled := by
  constructor
  · intro htotal
    have hends : ∀ (c : Condition) (contact : Value) (kind : ErrorKind),
        (∃ cause, c.verdict .contact default contact = .failed cause ∧ cause.kind = kind) → kind ∈ handled := by
      intro c contact kind hfails
      by_contra hunhandled
      obtain ⟨answer, hanswer⟩ := htotal default ⟨"", .and, [c], []⟩ contact
      have hc : c.Escapes handled .contact default contact kind := ⟨hunhandled, hfails⟩
      rw [attempt, List.allM_cons, hc.attempt_eq] at hanswer
      cases hanswer
    constructor
    · exact hends ⟨"", "lead_score", .known .equals, .int 5, .null⟩
        (.ofFields [("lead_score", .decimal (.nan false true 0))]) .value
        ⟨.signallingNan, by decide +kernel, rfl⟩
    · exact hends ⟨"", "lead_score", .known .equals, .int 5, .null⟩
        (.ofFields [("lead_score", .int (Nat.pow 10 400))]) .overflow ⟨.numberTooLarge, by decide +kernel, rfl⟩
  · intro hkinds now t contact
    exact ⟨_, attempt_eq_ok hkinds.1 hkinds.2 t contact⟩

/-! ## What a failure leaves alone -/

/-- The second condition is the first one; or the first one fails on the record, and the second one does not
hold for it. -/
def Condition.SilencedBy (catalogue : Catalogue) (now : DateTime) (contact : Value) (c c' : Condition) : Prop :=
  c' = c ∨ (c.Degrades catalogue now contact ∧ c'.holds catalogue now contact = false)

theorem Condition.Degrades.holds_eq {c : Condition} (h : c.Degrades catalogue now contact) :
    c.holds catalogue now contact = false := by
  obtain ⟨cause, hcause⟩ := h
  rw [holds, hcause]
  rfl

theorem Condition.SilencedBy.holds_eq {c c' : Condition} (h : c.SilencedBy catalogue now contact c') :
    c'.holds catalogue now contact = c.holds catalogue now contact := by
  rcases h with heq | ⟨hfails, hfalse⟩
  · rw [heq]
  · rw [hfalse, hfails.holds_eq]

namespace Evaluator

variable {e : Evaluator} {t : Group}

theorem judge_eq_verdict (e : Evaluator) (c : Condition) (contact : Value) :
    (e.judge c contact).1 = c.verdict e.catalogue e.now.1 contact :=
  rfl

/-- A condition fails only with a cause of its operator on the type of its field. -/
theorem mem_causes_of_judge {c : Condition} {cause : Failure}
    (hverdict : (e.judge c contact).1 = .failed cause) :
    ∃ operator, c.admitted e.catalogue = .ok operator ∧
      cause ∈ operator.causes (e.catalogue.fieldType c.field) := by
  rw [judge_eq_verdict] at hverdict
  cases hadmitted : c.admitted e.catalogue with
  | error refusal =>
    have hrefusal := Condition.isRefusal_of_admitted hadmitted
    rw [Condition.verdict, hadmitted] at hverdict
    dsimp only at hverdict
    rw [hverdict] at hrefusal
    cases hrefusal
  | ok operator =>
    rw [Condition.verdict_of_admitted hadmitted, Verdict.ofAnswer_eq_failed] at hverdict
    exact ⟨operator, rfl, Operator.mem_causes_iff.2 ⟨_, _, _, _, hverdict⟩⟩

theorem attempt_eq_map (handled : List ErrorKind) (e : Evaluator) (t : Group) (contact : Value) :
    e.attempt handled t contact = (t.attempt handled e.catalogue e.now.1 contact).map (·, e.now.2) := by
  show (do return (← t.attempt handled e.catalogue e.now.1 contact, e.now.2)) = _
  cases t.attempt handled e.catalogue e.now.1 contact <;> rfl

/-- One evaluation is not ended. -/
theorem attempt_handled (e : Evaluator) (t : Group) (contact : Value) :
    e.attempt ErrorKind.handled t contact = .ok (e.evaluate t contact) := by
  rw [attempt_eq_map, Group.attempt_eq_ok (by decide) (by decide)]
  rfl

/-- One pass over the records is not ended. -/
theorem attemptFilter_handled (e : Evaluator) (t : Group) (contacts : List Value) :
    e.attemptFilter ErrorKind.handled t contacts = .ok (e.filter t contacts) := by
  show (do return (← t.attemptAudience ErrorKind.handled e.catalogue e.now.1 contacts, e.now.2)) = _
  rw [Group.attemptAudience_eq_ok (by decide) (by decide)]
  rfl

theorem attemptCount_handled (e : Evaluator) (t : Group) (contacts : List Value) :
    e.attemptCount ErrorKind.handled t contacts = .ok (e.count t contacts) := by
  have hlength : ((e.filter t contacts).1.length, (e.filter t contacts).2) = e.count t contacts := by
    rw [← count_eq_length]
    rfl
  rw [attemptCount, attemptFilter_handled]
  exact congrArg Except.ok hlength

/-- An evaluation that is ended is ended by one of the conditions. -/
theorem escapes_of_attempt {kind : ErrorKind} (h : e.attempt handled t contact = .error kind) :
    t.Escapes handled e.catalogue e.now.1 contact kind := by
  have hgives : GivesOr (t.holds e.catalogue e.now.1 contact) (t.Escapes handled e.catalogue e.now.1 contact)
      (t.attempt handled e.catalogue e.now.1 contact) := t.attempt_gives
  rw [attempt_eq_map] at h
  cases hanswer : t.attempt handled e.catalogue e.now.1 contact with
  | ok b =>
    rw [hanswer] at h
    cases h
  | error kind' =>
    rw [hanswer] at h hgives
    cases h
    exact hgives

/-- Evaluation goes on after type errors, bad values and overflows, and no other error occurs: evaluating a
tree on a record, selecting and counting come to their results. Without a handler, or with one for other
kinds of errors, only a condition of the tree can end an evaluation, by failing with an error that is not
handled. A condition fails only with a cause of its operator, its error is handled, and it does not hold then.
Its failure stays its own: the answer of the tree is the one it has with other conditions that do not hold in
place of those that fail, and the records before and after this one are kept as they are without it. -/
theorem evaluate_contained (e : Evaluator) (t : Group) (contact : Value) (contacts : List Value) :
    (e.attempt ErrorKind.handled t contact = .ok (e.evaluate t contact) ∧
      e.attemptFilter ErrorKind.handled t contacts = .ok (e.filter t contacts) ∧
      e.attemptCount ErrorKind.handled t contacts = .ok (e.count t contacts)) ∧
    (∀ handled kind, e.attempt handled t contact = .error kind →
      t.Escapes handled e.catalogue e.now.1 contact kind) ∧
    (∀ c cause, (e.judge c contact).1 = .failed cause →
      (∃ operator, c.admitted e.catalogue = .ok operator ∧
        cause ∈ operator.causes (e.catalogue.fieldType c.field)) ∧
      cause.kind ∈ ErrorKind.handled ∧ (e.judge c contact).1.holds = false) ∧
    (∀ t', t.Alike (Condition.SilencedBy e.catalogue e.now.1 contact) t' →
      (e.evaluate t' contact).1 = (e.evaluate t contact).1) ∧
    ∀ before after, (e.filter t (before ++ contact :: after)).1 =
      (e.filter t before).1 ++ (if (e.evaluate t contact).1 then [contact] else []) ++
        (e.filter t after).1 := by
  refine ⟨⟨e.attempt_handled t contact, e.attemptFilter_handled t contacts, e.attemptCount_handled t contacts⟩,
    fun handled kind h => escapes_of_attempt h, ?_, ?_, ?_⟩
  · intro c cause hfailed
    refine ⟨mem_causes_of_judge hfailed, ?_, ?_⟩
    · cases cause <;> decide
    · rw [hfailed]
      rfl
  · intro t' halike
    rw [evaluate_eq_holds, evaluate_eq_holds]
    exact halike.holds_eq fun c _ c' hsilenced => hsilenced.holds_eq
  · intro before after
    have hsplit : (e.filter t (before ++ contact :: after)).1 =
        (e.filter t before).1 ++ ([contact].filter fun contact => (e.evaluate t contact).1) ++
          (e.filter t after).1 := by
      rw [filter_eq, filter_eq, filter_eq, List.append_cons, List.filter_append, List.filter_append]
      rfl
    rw [hsplit, List.filter_singleton]
    cases (e.evaluate t contact).1 <;> rfl

/-- A score that signals, a tag with too many digits and a clock without an answer: the third condition
decides, as it would beside two conditions that do not hold. Without a handler, the score ends the evaluation. -/
theorem evaluate_contained_unreadable :
    let e : Evaluator := ⟨.contact, .ofAnswers [.bytes [0]], default⟩
    let score : Condition := ⟨"a", "lead_score", .known .greaterThan, .int 5, .null⟩
    let tag : Condition := ⟨"b", "tags", .known .contains, .text "vip", .null⟩
    let mail : Condition := ⟨"c", "email", .known .isNotEmpty, .null, .null⟩
    let noMail : Condition := ⟨"d", "email", .known .isEmpty, .null, .null⟩
    let t : Group := ⟨"g", .or, [score, tag, mail], []⟩
    let t' : Group := ⟨"g", .or, [noMail, noMail, mail], []⟩
    let broken : Value := .ofFields [("lead_score", .decimal (.nan false true 0)),
      ("tags", .collection .list [.int (Nat.pow 10 4300)]), ("email", .text "ann@x.org")]
    ((e.judge score broken).1 = .failed .signallingNan ∧ (e.judge tag broken).1 = .failed .integerTooLong ∧
      t.Alike (Condition.SilencedBy e.catalogue e.now.1 broken) t' ∧
      e.attempt [.overflow] t broken = .error .value) ∧
      e.attempt ErrorKind.handled t broken = .ok (e.evaluate t broken) ∧
      t.Escapes [.overflow] e.catalogue e.now.1 broken .value ∧
      (e.judge score broken).1.holds = false ∧ (e.evaluate t' broken).1 = (e.evaluate t broken).1 ∧
      (e.evaluate t broken).1 = true := by
  intro e score tag mail noMail t t' broken
  have hscore : score.verdict e.catalogue e.now.1 broken = .failed .signallingNan := by decide +kernel
  have htag : tag.verdict e.catalogue e.now.1 broken = .failed .integerTooLong := by decide +kernel
  have hjudgeScore : (e.judge score broken).1 = .failed .signallingNan := (e.judge_eq_verdict ..).trans hscore
  have hjudgeTag : (e.judge tag broken).1 = .failed .integerTooLong := (e.judge_eq_verdict ..).trans htag
  have hnoMail : noMail.holds e.catalogue e.now.1 broken = false := by decide +kernel
  have halike : t.Alike (Condition.SilencedBy e.catalogue e.now.1 broken) t' :=
    .node rfl (.cons (.inr ⟨⟨_, hscore⟩, hnoMail⟩) (.cons (.inr ⟨⟨_, htag⟩, hnoMail⟩)
      (.cons (.inl rfl) .nil))) .nil
  have hescapes : score.Escapes [.overflow] e.catalogue e.now.1 broken .value :=
    ⟨by decide, .signallingNan, hscore, rfl⟩
  have hended : e.attempt [.overflow] t broken = .error .value := by
    rw [attempt_eq_map, Group.attempt, List.anyM_cons, hescapes.attempt_eq]
    rfl
  obtain ⟨⟨hattempt, -, -⟩, hends, hfails, hsilenced, -⟩ := evaluate_contained e t broken []
  exact ⟨⟨hjudgeScore, hjudgeTag, halike, hended⟩, hattempt, hends _ _ hended,
    (hfails score _ hjudgeScore).2.2, hsilenced t' halike, by decide +kernel⟩

end Evaluator

end Segmentation
