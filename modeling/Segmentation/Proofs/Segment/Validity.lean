import Segmentation.Proofs.Rule.Checking
import Segmentation.Segment.Checking

/-!
# Data that is a segment

* `Corresponds`: what the outcomes of two computations have in common, whatever identifiers they draw.
* `Checked.Agree`: two checks find the same problems, or both find related things.
* `Condition.check_agree`, `Group.check_agree`: a tree is found in data, or the same problems are, whatever
  identifiers are drawn.
* `Segment.check_agree`: the same goes for a segment, at any two times.
* `Value.isSegment_iff`: so data is a segment once and for all, or is none.
-/

namespace Segmentation

open Calendar

/-! ## Two computations with identifiers -/

section Corresponds

variable {α β γ δ : Type}

/-- Whatever identifiers the two computations draw, their outcomes are related. -/
def Corresponds (R : α → β → Prop) (x : StateM IdSupply α) (y : StateM IdSupply β) : Prop :=
  ∀ supply supply', R (x.run supply).1 (y.run supply').1

variable {R : α → β → Prop} {S : γ → δ → Prop}

theorem corresponds_pure {a : α} {b : β} (h : R a b) : Corresponds R (pure a) (pure b) :=
  fun _ _ => h

theorem Corresponds.bind {x : StateM IdSupply α} {y : StateM IdSupply β} {next : α → StateM IdSupply γ}
    {next' : β → StateM IdSupply δ} (h : Corresponds R x y)
    (hnext : ∀ a b, R a b → Corresponds S (next a) (next' b)) : Corresponds S (x >>= next) (y >>= next') :=
  fun supply supply' => hnext _ _ (h supply supply') _ _

end Corresponds

namespace Checked

variable {α β γ δ : Type}

/-- Both checks find the same problems, or both find something, and this is related. -/
inductive Agree (R : α → β → Prop) : Checked α → Checked β → Prop where
  | ok {a : α} {b : β} (h : R a b) : Agree R (.ok a) (.ok b)
  | error (ps : List Problem) : Agree R (.error ps) (.error ps)

/-- Both checks find something or the same problems. -/
abbrev SameProblems : Checked α → Checked β → Prop :=
  Agree fun _ _ => True

variable {R R' : α → β → Prop} {S : γ → δ → Prop} {x : Checked α} {y : Checked β} {z : Checked γ} {w : Checked δ}

theorem Agree.rfl {x : Checked α} : Agree Eq x x := by
  cases x with
  | ok a => exact .ok (Eq.refl a)
  | error ps => exact .error ps

theorem Agree.mono (h : Agree R x y) (hR : ∀ a b, R a b → R' a b) : Agree R' x y := by
  cases h with
  | ok h => exact .ok (hR _ _ h)
  | error ps => exact .error ps

theorem Agree.sameProblems (h : Agree R x y) : SameProblems x y :=
  h.mono fun _ _ _ => trivial

theorem Agree.under (h : Agree R x y) (part : String) : Agree R (x.under part) (y.under part) := by
  cases h with
  | ok h => exact .ok h
  | error ps => exact .error _

theorem Agree.map (h : Agree R x y) {f : α → γ} {g : β → δ} (hS : ∀ a b, R a b → S (f a) (g b)) :
    Agree S (x.map f) (y.map g) := by
  cases h with
  | ok h => exact .ok (hS _ _ h)
  | error ps => exact .error ps

theorem Agree.bind (h : Agree R x y) {f : α → Checked γ} {g : β → Checked δ}
    (hnext : ∀ a b, R a b → Agree S (f a) (g b)) : Agree S (x >>= f) (y >>= g) := by
  cases h with
  | ok h => exact hnext _ _ h
  | error ps => exact .error ps

theorem Agree.both (h : Agree R x y) (h' : Agree S z w) :
    Agree (fun p q => R p.1 q.1 ∧ S p.2 q.2) (x.both z) (y.both w) := by
  cases h with
  | ok h =>
    cases h' with
    | ok h' => exact .ok ⟨h, h'⟩
    | error qs => exact .error qs
  | error ps =>
    cases h' with
    | ok h' => exact .error ps
    | error qs => exact .error _

end Checked

open Checked (Agree SameProblems)

/-! ## Trees -/

theorem checkId_agree (es : List (Value × Value)) : Corresponds SameProblems (checkId es) (checkId es) := by
  unfold checkId
  split
  · exact corresponds_pure Agree.rfl.sameProblems
  · exact fun supply supply' => .ok trivial

namespace Condition

theorem check_agree (v : Value) : Corresponds SameProblems (check v) (check v) := by
  unfold check
  split
  · exact corresponds_pure (.error _)
  · refine (checkId_agree _).bind fun id id' hid => corresponds_pure ?_
    exact (hid.both Agree.rfl).map fun _ _ _ => trivial

theorem checkAll_agree (vs : List Value) (index : Nat) :
    Corresponds SameProblems (checkAll index vs) (checkAll index vs) := by
  induction vs generalizing index with
  | nil => exact corresponds_pure (.ok trivial)
  | cons v vs ih =>
    rw [checkAll]
    refine (check_agree v).bind fun c c' hc => (ih (index + 1)).bind fun cs cs' hcs => corresponds_pure ?_
    exact ((hc.under _).both hcs).map fun _ _ _ => trivial

theorem checkList_agree (v : Value) : Corresponds SameProblems (checkList v) (checkList v) := by
  unfold checkList
  split
  · exact checkAll_agree _ 0
  · exact corresponds_pure (.error _)

end Condition

namespace Group

/-- There are entries for sub-groups in both cases or in neither, and the checks agree. -/
def FoundAlike (found found' : Option (Checked (List Group))) : Prop :=
  SameProblems (found.getD (.ok [])) (found'.getD (.ok [])) ∧ found.isSome = found'.isSome

theorem ofParts_agree {id id' : Checked String} {connective : Checked Connective}
    {conditions conditions' : Checked (List Condition)} {groups groups' : Checked (List Group)}
    (hid : SameProblems id id') (hconditions : SameProblems conditions conditions')
    (hgroups : SameProblems groups groups') :
    SameProblems (ofParts id connective (Checked.under "conditions" conditions) (Checked.under "groups" groups))
      (ofParts id' connective (Checked.under "conditions" conditions') (Checked.under "groups" groups')) :=
  (hid.both (Agree.rfl.both ((hconditions.under _).both (hgroups.under _)))).map fun _ _ _ => trivial

mutual

theorem check_agree : (room : Option Nat) → (v : Value) →
    Corresponds SameProblems (check room v) (check room v)
  | room, .mapping es => by
    rw [check]
    split
    · exact corresponds_pure (.error _)
    · rename_i inside hinside
      refine (checkId_agree es).bind fun id id' hid => ?_
      have hrest : ∀ conditions conditions', SameProblems conditions conditions' → Corresponds SameProblems
          (do
            let groups ← checkEntries inside es
            return ofParts id (Schema.withDefault es "operator" .and Connective.check)
              (Checked.under "conditions" conditions) (Checked.under "groups" (groups.getD (.ok []))))
          (do
            let groups ← checkEntries inside es
            return ofParts id' (Schema.withDefault es "operator" .and Connective.check)
              (Checked.under "conditions" conditions') (Checked.under "groups" (groups.getD (.ok [])))) :=
        fun conditions conditions' hconditions => (checkEntries_agree inside es).bind fun found found' hfound =>
          corresponds_pure (ofParts_agree hid hconditions hfound.1)
      dsimp only
      cases Value.valueUnder? es "conditions" with
      | some v => exact (Condition.checkList_agree v).bind hrest
      | none => exact (corresponds_pure (.ok trivial)).bind hrest
  | room, .null | room, .bool _ | room, .int _ | room, .float _ | room, .decimal _ | room, .text _
  | room, .bytes _ | room, .date _ | room, .datetime _ | room, .collection _ _ | room, .record _ => by
    rw [check]
    · exact corresponds_pure (.error _)
    · simp

theorem checkEntries_agree : (room : Option Nat) → (es : List (Value × Value)) →
    Corresponds FoundAlike (checkEntries room es) (checkEntries room es)
  | _, [] => corresponds_pure ⟨.ok trivial, rfl⟩
  | room, (k, v) :: es => by
    unfold checkEntries
    refine (checkEntries_agree room es).bind fun found found' hfound => ?_
    cases found with
    | some groups =>
      cases found' with
      | some groups' => exact corresponds_pure hfound
      | none => cases hfound.2
    | none =>
      cases found' with
      | some groups' => cases hfound.2
      | none =>
        dsimp only
        split
        · split
          · exact (checkList_agree room v).bind fun groups groups' hgroups => corresponds_pure ⟨hgroups, rfl⟩
          · exact corresponds_pure hfound
        · exact corresponds_pure hfound

theorem checkList_agree : (room : Option Nat) → (v : Value) →
    Corresponds SameProblems (checkList room v) (checkList room v)
  | room, .collection _ items => by
    rw [checkList]
    exact checkAll_agree room items 0
  | room, .null | room, .bool _ | room, .int _ | room, .float _ | room, .decimal _ | room, .text _
  | room, .bytes _ | room, .date _ | room, .datetime _ | room, .mapping _ | room, .record _ => by
    rw [checkList]
    · exact corresponds_pure (.error _)
    · simp

theorem checkAll_agree : (room : Option Nat) → (vs : List Value) → (index : Nat) →
    Corresponds SameProblems (checkAll room index vs) (checkAll room index vs)
  | _, [], _ => corresponds_pure (.ok trivial)
  | room, v :: vs, index => by
    rw [checkAll]
    refine (check_agree room v).bind fun g g' hg => (checkAll_agree room vs (index + 1)).bind
      fun gs gs' hgs => corresponds_pure ?_
    exact ((hg.under _).both hgs).map fun _ _ _ => trivial

end

end Group

/-! ## Segments -/

namespace Segment

/-- Whether there are rules decides if they are allowed, not which ones. -/
theorem ofParts_agree {name : String} {type : SegmentType} {rules rules' : Option Group} {members : List String}
    (h : rules.isSome = rules'.isSome) :
    SameProblems (Schema.obeying (Membership.ofParts name type rules members))
      (Schema.obeying (Membership.ofParts name type rules' members)) := by
  unfold Membership.ofParts
  rw [h]
  cases type with
  | static =>
    dsimp only
    split
    · exact .error _
    · exact .ok trivial
  | dynamic =>
    dsimp only
    split
    · exact .ok trivial
    · exact .error _

variable [Limits]

theorem checkRules_agree (es : List (Value × Value)) :
    Corresponds (Agree fun rules rules' => rules.isSome = rules'.isSome) (checkRules es) (checkRules es) := by
  unfold checkRules
  split
  · exact corresponds_pure (.ok rfl)
  · exact corresponds_pure (.ok rfl)
  · refine (Group.check_agree _ _).bind fun g g' hg => corresponds_pure (Agree.under ?_ _)
    exact hg.map fun _ _ _ => rfl

/-- The same problems are found in data, or a segment is, whatever identifiers are drawn and at any time. -/
theorem check_agree (v : Value) (now now' : DateTime) :
    Corresponds SameProblems (check now v) (check now' v) := by
  unfold check
  cases Schema.entries v with
  | error ps => exact corresponds_pure (.error ps)
  | ok es =>
    refine (checkId_agree es).bind fun id id' hid => (checkRules_agree es).bind fun rules rules' hrules =>
      corresponds_pure ?_
    have htimes : ∀ key, SameProblems (Schema.withDefault es key now Schema.time)
        (Schema.withDefault es key now' Schema.time) := by
      intro key
      unfold Schema.withDefault
      split
      · exact Agree.rfl.sameProblems
      · exact .ok trivial
    refine (hid.both <| Agree.rfl.both <| Agree.rfl.both <| Agree.rfl.both <| hrules.both <| Agree.rfl.both <|
      Agree.rfl.both <| (htimes _).both (htimes _)).bind ?_
    rintro ⟨id, name, description, type, rules, members, count, created, updated⟩
      ⟨id', name', description', type', rules', members', count', created', updated'⟩
      ⟨-, rfl, rfl, rfl, hsome, rfl, rfl, -, -⟩
    exact (ofParts_agree hsome).bind fun _ _ _ => .ok trivial

end Segment

namespace Value

variable [Limits]

/-- A segment can be read from the data at some time, with some identifiers. -/
def IsSegment (v : Value) : Prop :=
  ∃ now supply s, ((Segment.check now v).run supply).1 = .ok s

/-- A segment can be read from the data then at any time, with any identifiers. -/
theorem isSegment_iff {v : Value} (now : DateTime) (supply : IdSupply) :
    v.IsSegment ↔ ∃ s, ((Segment.check now v).run supply).1 = .ok s := by
  constructor
  · rintro ⟨now', supply', s', hs'⟩
    have hagree := Segment.check_agree v now' now supply' supply
    rw [hs'] at hagree
    cases hchecked : ((Segment.check now v).run supply).1 with
    | ok s => exact ⟨s, rfl⟩
    | error ps =>
      rw [hchecked] at hagree
      cases hagree
  · rintro ⟨s, hs⟩
    exact ⟨now, supply, s, hs⟩

/-- These are the problems of the data with a segment, at some time, with some identifiers. -/
def HasProblems (v : Value) (ps : List Problem) : Prop :=
  ∃ now supply, ((Segment.check now v).run supply).1 = .error ps

end Value

end Segmentation
