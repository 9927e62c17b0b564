import Segmentation.Proofs.Rule.Checking
import Segmentation.Proofs.Schema.Places
import Segmentation.Proofs.Value.Text

/-!
# The grammar of rule trees

* `Value.IsCondition`, `Value.IsTree`: which data stands for a condition and for a tree.
* `Value.GroupAt`, `Value.ConditionAt`: the nodes of data and the places where they stand.
* `Value.IsShortList`, `Value.Nests`, `Value.ListsShort`: the limits beside the grammar, of integers in lists and of
  groups in groups.
* `Condition.BadAt`, `Group.BadAt`: the places at which data is against the grammar or beyond the limits.
* `Group.check_finds`: reading a tree finds all bad places and no others, whatever stands beside them.
* `Group.isTree_iff`: no place is bad exactly if the data stands for a tree within the limits.
-/

namespace Segmentation

/-! ## Data that fits -/

namespace Value

/-- The value can be compared with: it says nothing, or is a flag, a number, text or a list. -/
def IsOperand : Value → Prop
  | null | bool _ | int _ | float _ | text _ | collection .list _ => True
  | _ => False

/-- The value names a connective, in any case. -/
def IsConnective (v : Value) : Prop :=
  ∃ s, v = text s ∧ (Text.upper s = "AND" ∨ Text.upper s = "OR")

/-- Data that stands for a condition. Other entries do not matter. -/
structure ConditionEntries (es : List (Value × Value)) : Prop where
  id : IfPresent es "id" IsText
  field : IsPresent es "field" IsText
  operator : IsPresent es "operator" IsText
  value : IfPresent es "value" IsOperand
  value2 : IfPresent es "value2" IsOperand

/-- Data that stands for a condition: an object with the entries of one. -/
def IsCondition (v : Value) : Prop :=
  ∃ es, v = mapping es ∧ ConditionEntries es

/-- The entries of a group itself, without what its lists hold. -/
structure GroupEntries (es : List (Value × Value)) : Prop where
  id : IfPresent es "id" IsText
  operator : IfPresent es "operator" IsConnective
  conditions : IfPresent es "conditions" IsList
  groups : IfPresent es "groups" IsList

/-- Data that is in its own entries like a group. -/
def IsGroup (v : Value) : Prop :=
  ∃ es, v = mapping es ∧ GroupEntries es

/-- Data that stands for a rule tree: an object whose own entries are those of a group, whose conditions
are conditions, and whose sub-groups are trees again. -/
inductive IsTree : Value → Prop where
  | node {es : List (Value × Value)} (own : GroupEntries es)
      (conditions : ∀ items, valueUnder? es "conditions" = some (collection .list items) →
        ∀ c ∈ items, IsCondition c)
      (groups : ∀ items, valueUnder? es "groups" = some (collection .list items) →
        ∀ g ∈ items, IsTree g) : IsTree (mapping es)

/-! ## Nodes and their places -/

/-- The data under a path of keys and indexes, at which a group should stand. -/
inductive GroupAt : Value → List String → Value → Prop where
  | here (v : Value) : GroupAt v [] v
  | within {es : List (Value × Value)} {items : List Value} {i : Nat} {g sub : Value}
      {path : List String} (hitems : valueUnder? es "groups" = some (collection .list items))
      (hg : items[i]? = some g) (hsub : GroupAt g path sub) :
      GroupAt (mapping es) ("groups" :: toString i :: path) sub

/-- The data under a path of keys and indexes, at which a condition should stand. -/
inductive ConditionAt : Value → List String → Value → Prop where
  | intro {v c : Value} {es : List (Value × Value)} {items : List Value} {i : Nat}
      {path : List String} (hgroup : GroupAt v path (mapping es))
      (hitems : valueUnder? es "conditions" = some (collection .list items))
      (hc : items[i]? = some c) : ConditionAt v (path ++ ["conditions", toString i]) c

/-! ## Limits beside the grammar -/

/-- If the value is a list, every integer in it can be written as text. -/
def IsShortList : Value → Prop
  | collection .list items => AllJson Integer.HasText items
  | _ => True

/-- The lists among the operands of a condition are short. -/
structure OperandsShort (es : List (Value × Value)) : Prop where
  value : IfPresent es "value" IsShortList
  value2 : IfPresent es "value2" IsShortList

/-- There is room for every group: each step down to a group takes two parts of its path. -/
def Nests (room : Option Nat) (v : Value) : Prop :=
  ∀ path g, v.GroupAt path g → ∀ n ∈ room, path.length < 2 * n

/-- The lists among the operands of all conditions are short. -/
def ListsShort (v : Value) : Prop :=
  ∀ path es, v.ConditionAt path (mapping es) → OperandsShort es

end Value

/-! ## Places that are against the grammar -/

open Value

/-- The places at which data is against the grammar of conditions, or a list among its operands is not short. -/
inductive Condition.BadAt : Value → List String → Prop where
  | kind {v : Value} (h : ∀ es, v ≠ .mapping es) : Condition.BadAt v []
  | id {es : List (Value × Value)} (h : ¬ IfPresent es "id" IsText) : Condition.BadAt (.mapping es) ["id"]
  | field {es : List (Value × Value)} (h : ¬ IsPresent es "field" IsText) :
      Condition.BadAt (.mapping es) ["field"]
  | operator {es : List (Value × Value)} (h : ¬ IsPresent es "operator" IsText) :
      Condition.BadAt (.mapping es) ["operator"]
  | value {es : List (Value × Value)} (h : ¬ IfPresent es "value" fun v => v.IsOperand ∧ v.IsShortList) :
      Condition.BadAt (.mapping es) ["value"]
  | value2 {es : List (Value × Value)} (h : ¬ IfPresent es "value2" fun v => v.IsOperand ∧ v.IsShortList) :
      Condition.BadAt (.mapping es) ["value2"]

/-- The places at which data is against the grammar of trees or beyond the limits, at every depth for which there is
room. -/
inductive Group.BadAt : (room : Option Nat) → Value → List String → Prop where
  | deep {room : Option Nat} {v : Value} (h : roomInside? room = none) : Group.BadAt room v []
  | kind {room : Option Nat} {v : Value} (h : ∀ es, v ≠ .mapping es) : Group.BadAt room v []
  | id {room inside : Option Nat} {es : List (Value × Value)} (hroom : roomInside? room = some inside)
      (h : ¬ IfPresent es "id" IsText) : Group.BadAt room (.mapping es) ["id"]
  | operator {room inside : Option Nat} {es : List (Value × Value)} (hroom : roomInside? room = some inside)
      (h : ¬ IfPresent es "operator" IsConnective) : Group.BadAt room (.mapping es) ["operator"]
  | conditions {room inside : Option Nat} {es : List (Value × Value)} (hroom : roomInside? room = some inside)
      (h : ¬ IfPresent es "conditions" IsList) : Group.BadAt room (.mapping es) ["conditions"]
  | groups {room inside : Option Nat} {es : List (Value × Value)} (hroom : roomInside? room = some inside)
      (h : ¬ IfPresent es "groups" IsList) : Group.BadAt room (.mapping es) ["groups"]
  | condition {room inside : Option Nat} {es : List (Value × Value)} {items : List Value} {index : Nat} {c : Value}
      {place : List String} (hroom : roomInside? room = some inside)
      (hitems : valueUnder? es "conditions" = some (.collection .list items))
      (hc : items[index]? = some c) (h : Condition.BadAt c place) :
      Group.BadAt room (.mapping es) ("conditions" :: toString index :: place)
  | subGroup {room inside : Option Nat} {es : List (Value × Value)} {items : List Value} {index : Nat} {g : Value}
      {place : List String} (hroom : roomInside? room = some inside)
      (hitems : valueUnder? es "groups" = some (.collection .list items))
      (hg : items[index]? = some g) (h : Group.BadAt inside g place) :
      Group.BadAt room (.mapping es) ("groups" :: toString index :: place)

/-! ## Single values -/

namespace Value

mutual

/-- Plain data can be written exactly if its integers can. -/
theorem IsJson.exists_form_iff : (v : Value) → v.IsJson →
    ((∃ s, v.form = .ok s) ↔ v.IsJsonWith Integer.HasText)
  | .null, _ | .bool _, _ | .float _, _ | .text _, _ => iff_of_true ⟨_, rfl⟩ trivial
  | .int n, _ => by
    simp only [form]
    exact Integer.exists_text_iff
  | .collection .list items, hv => by
    refine Iff.trans ?_ (IsJson.exists_forms_iff items hv)
    constructor
    · rintro ⟨s, hs⟩
      obtain ⟨ss, hss, -⟩ := bind_eq_ok.1 hs
      exact ⟨ss, hss⟩
    · rintro ⟨ss, hss⟩
      exact ⟨_, bind_eq_ok.2 ⟨ss, hss, rfl⟩⟩
  | .mapping es, hv => by
    refine Iff.trans ?_ (IsJson.exists_entryForms_iff es hv)
    constructor
    · rintro ⟨s, hs⟩
      obtain ⟨ss, hss, -⟩ := bind_eq_ok.1 hs
      exact ⟨ss, hss⟩
    · rintro ⟨ss, hss⟩
      exact ⟨_, bind_eq_ok.2 ⟨ss, hss, rfl⟩⟩

theorem IsJson.exists_forms_iff : (vs : List Value) → AllJson (fun _ => True) vs →
    ((∃ ss, forms vs = .ok ss) ↔ AllJson Integer.HasText vs)
  | [], _ => iff_of_true ⟨[], rfl⟩ trivial
  | v :: vs, hvs => by
    rw [AllJson, ← IsJson.exists_form_iff v hvs.1, ← IsJson.exists_forms_iff vs hvs.2]
    constructor
    · rintro ⟨all, hall⟩
      obtain ⟨s, hs, hall⟩ := bind_eq_ok.1 hall
      obtain ⟨ss, hss, -⟩ := bind_eq_ok.1 hall
      exact ⟨⟨s, hs⟩, ss, hss⟩
    · rintro ⟨⟨s, hs⟩, ss, hss⟩
      exact ⟨_, bind_eq_ok.2 ⟨s, hs, bind_eq_ok.2 ⟨ss, hss, rfl⟩⟩⟩

theorem IsJson.exists_entryForms_iff : (es : List (Value × Value)) → EntriesJson (fun _ => True) es →
    ((∃ ss, entryForms es = .ok ss) ↔ EntriesJson Integer.HasText es)
  | [], _ => iff_of_true ⟨[], rfl⟩ trivial
  | (k, v) :: es, hes => by
    obtain ⟨key, rfl⟩ := hes.1
    rw [EntriesJson, ← IsJson.exists_form_iff v hes.2.1, ← IsJson.exists_entryForms_iff es hes.2.2]
    constructor
    · rintro ⟨all, hall⟩
      obtain ⟨_, -, hall⟩ := bind_eq_ok.1 hall
      obtain ⟨s, hs, hall⟩ := bind_eq_ok.1 hall
      obtain ⟨ss, hss, -⟩ := bind_eq_ok.1 hall
      exact ⟨⟨key, rfl⟩, ⟨s, hs⟩, ss, hss⟩
    · rintro ⟨-, ⟨s, hs⟩, ss, hss⟩
      exact ⟨_, bind_eq_ok.2 ⟨_, rfl, bind_eq_ok.2 ⟨s, hs, bind_eq_ok.2 ⟨ss, hss, rfl⟩⟩⟩⟩

end

end Value

/-- A member of a list of plain data becomes text exactly if its integers have one. -/
theorem Operand.exists_elementText_iff {v : Value} (hv : v.IsJson) :
    (∃ s, elementText v = .ok s) ↔ v.IsJsonWith Integer.HasText := by
  cases v with
  | text s => exact iff_of_true ⟨s, rfl⟩ trivial
  | decimal d | date d | datetime d => exact hv.elim
  | _ => exact IsJson.exists_form_iff _ hv

theorem Operand.check_decides {v : Value} (hv : v.IsJson) :
    Checked.Decides (v.IsOperand ∧ v.IsShortList) (check v) := by
  cases v with
  | null | bool b | int n | float x | text s => exact Checked.decides_ok ⟨trivial, trivial⟩ _
  | collection kind items =>
    cases kind with
    | list =>
      have hitem : ∀ item ∈ items, item.IsJson := allJson_iff.1 hv
      rw [check]
      cases hss : items.mapM elementText with
      | ok ss =>
        refine Checked.decides_ok ⟨trivial, allJson_iff.2 fun item hmem => ?_⟩ _
        exact (exists_elementText_iff (hitem item hmem)).1 (exists_of_mapM_eq_ok hss item hmem)
      | error e =>
        refine Checked.decides_misfit (fun hshort => ?_) _
        obtain ⟨ss, hok⟩ := exists_mapM_eq_ok fun item hmem =>
          (exists_elementText_iff (hitem item hmem)).2 (allJson_iff.1 hshort.2 item hmem)
        cases hss.symm.trans hok
    | _ => exact hv.elim
  | mapping es => exact Checked.decides_misfit (fun h => h.1) _
  | _ => exact hv.elim

theorem OperatorName.check_decides {v : Value} (hv : v.IsJson) : Checked.Decides v.IsText (check v) := by
  cases v with
  | text s => exact Checked.decides_ok ⟨s, rfl⟩ _
  | bytes bs => exact hv.elim
  | _ => exact Checked.decides_misfit (fun ⟨s, hs⟩ => by cases hs) _

theorem Connective.named?_eq_none {s : String} : named? s = none ↔ ¬ (s = "AND" ∨ s = "OR") := by
  unfold named?
  split_ifs <;> simp [*]

theorem Connective.check_decides {v : Value} (hv : v.IsJson) :
    Checked.Decides v.IsConnective (check v) := by
  cases v with
  | text s =>
    rw [check, Schema.name, Schema.text]
    dsimp only
    cases hnamed : named? (Text.upper s) with
    | some c =>
      refine Checked.decides_ok ⟨s, rfl, ?_⟩ c
      by_contra hneither
      rw [named?_eq_none.2 hneither] at hnamed
      cases hnamed
    | none =>
      refine Checked.decides_misfit ?_ _
      rintro ⟨s', hs', hupper⟩
      cases hs'
      exact named?_eq_none.1 hnamed hupper
  | bytes bs => exact hv.elim
  | _ => exact Checked.decides_misfit (by rintro ⟨s, hs, -⟩; cases hs) _

/-! ## Conditions -/

open Checked

theorem checkId_finds {es : List (Value × Value)} (hes : EntriesJson (fun _ => True) es) :
    Yields (checkId es) (Finds fun place => place = ["id"] ∧ ¬ IfPresent es "id" IsText) := by
  unfold checkId IfPresent
  cases hfound : valueUnder? es "id" with
  | none =>
    refine (yields_any IdSupply.draw).bind fun id _ => yields_pure fun place hbad => ?_
    exact hbad.2 fun v hv => by cases hv
  | some v =>
    refine yields_pure (((Schema.text_decides (IsJsonWith.valueUnder? hes hfound)).under "id").congr
      fun place => ?_)
    simp only [Option.some.injEq, forall_eq']

namespace Condition

theorem badAt_mapping {es : List (Value × Value)} {place : List String} :
    BadAt (.mapping es) place ↔
      (place = ["id"] ∧ ¬ IfPresent es "id" IsText) ∨ (place = ["field"] ∧ ¬ IsPresent es "field" IsText) ∨
      (place = ["operator"] ∧ ¬ IsPresent es "operator" IsText) ∨
      (place = ["value"] ∧ ¬ IfPresent es "value" fun v => v.IsOperand ∧ v.IsShortList) ∨
        (place = ["value2"] ∧ ¬ IfPresent es "value2" fun v => v.IsOperand ∧ v.IsShortList) := by
  constructor
  · intro h
    cases h with
    | kind h => exact absurd rfl (h es)
    | id h => exact .inl ⟨rfl, h⟩
    | field h => exact .inr (.inl ⟨rfl, h⟩)
    | operator h => exact .inr (.inr (.inl ⟨rfl, h⟩))
    | value h => exact .inr (.inr (.inr (.inl ⟨rfl, h⟩)))
    | value2 h => exact .inr (.inr (.inr (.inr ⟨rfl, h⟩)))
  · rintro (⟨rfl, h⟩ | ⟨rfl, h⟩ | ⟨rfl, h⟩ | ⟨rfl, h⟩ | ⟨rfl, h⟩)
    · exact .id h
    · exact .field h
    · exact .operator h
    · exact .value h
    · exact .value2 h

theorem badAt_of_ne_mapping {v : Value} (hv : ∀ es, v ≠ .mapping es) {place : List String} :
    place = [] ↔ BadAt v place := by
  constructor
  · rintro rfl
    exact .kind hv
  · intro h
    cases h with
    | kind _ => rfl
    | _ => exact absurd rfl (hv _)

/-- Reading a condition finds what is bad about it. -/
theorem check_finds {v : Value} (hv : v.IsJson) : Yields (check v) (Finds (BadAt v)) := by
  unfold check
  cases v with
  | mapping es =>
    have hentry : ∀ key v, valueUnder? es key = some v → v.IsJson := fun _ _ hfound =>
      IsJsonWith.valueUnder? hv hfound
    refine (checkId_finds hv).bind fun id hid => yields_pure ?_
    refine (Finds.map (Finds.both hid (Finds.both ?_ (Finds.both ?_ (Finds.both ?_ ?_)))) _).congr
      fun place => badAt_mapping.symm
    · exact Schema.required_finds fun v hfound => Schema.text_decides (hentry _ v hfound)
    · exact Schema.required_finds fun v hfound => OperatorName.check_decides (hentry _ v hfound)
    · exact Schema.withDefault_finds (fun v hfound => Operand.check_decides (hentry _ v hfound)) _
    · exact Schema.withDefault_finds (fun v hfound => Operand.check_decides (hentry _ v hfound)) _
  | _ => exact yields_pure ((finds_misfit _).congr fun _ => badAt_of_ne_mapping (by simp))

/-- No place in data is bad exactly if it stands for a condition and the lists among its operands are short. -/
theorem isCondition_iff {v : Value} :
    (∀ place, ¬ BadAt v place) ↔ v.IsCondition ∧ ∀ es, v = .mapping es → OperandsShort es := by
  constructor
  · intro h
    cases v with
    | mapping es =>
      have hvalue : IfPresent es "value" fun v => v.IsOperand ∧ v.IsShortList :=
        not_not.1 fun hnot => h _ (.value hnot)
      have hvalue2 : IfPresent es "value2" fun v => v.IsOperand ∧ v.IsShortList :=
        not_not.1 fun hnot => h _ (.value2 hnot)
      refine ⟨⟨es, rfl, ?_, ?_, ?_, fun v hv => (hvalue v hv).1, fun v hv => (hvalue2 v hv).1⟩, ?_⟩
      · exact not_not.1 fun hnot => h _ (.id hnot)
      · exact not_not.1 fun hnot => h _ (.field hnot)
      · exact not_not.1 fun hnot => h _ (.operator hnot)
      · rintro _ ⟨⟩
        exact ⟨fun v hv => (hvalue v hv).2, fun v hv => (hvalue2 v hv).2⟩
    | _ => exact absurd (.kind (by simp)) (h [])
  · rintro ⟨⟨es, rfl, hes⟩, hshort⟩ place hbad
    rcases badAt_mapping.1 hbad with h | h | h | h | h
    · exact h.2 hes.id
    · exact h.2 hes.field
    · exact h.2 hes.operator
    · exact h.2 fun v hv => ⟨hes.value v hv, (hshort es rfl).value v hv⟩
    · exact h.2 fun v hv => ⟨hes.value2 v hv, (hshort es rfl).value2 v hv⟩

end Condition

namespace Condition

theorem checkAll_finds {vs : List Value} (hvs : AllJson (fun _ => True) vs) (start : Nat) :
    Yields (checkAll start vs) (Finds (BadFrom BadAt start vs)) := by
  induction vs generalizing start with
  | nil => exact yields_pure finds_nil
  | cons v vs ih =>
    rw [checkAll]
    exact (check_finds hvs.1).bind fun c hc => (ih hvs.2 (start + 1)).bind fun cs hcs =>
      yields_pure (hc.cons hcs)

theorem checkList_finds {v : Value} (hv : v.IsJson) :
    Yields (checkList v) (Finds (BadInList BadAt v)) := by
  cases v with
  | collection kind items =>
    cases kind with
    | list => exact fun supply => finds_list (checkAll_finds hv 0 supply)
    | _ => exact hv.elim
  | _ => exact yields_pure (finds_noList fun ⟨items, h⟩ => by cases h)

end Condition

/-! ## Trees -/

namespace Group

theorem badAt_mapping {room inside : Option Nat} (hroom : roomInside? room = some inside)
    {es : List (Value × Value)} {place : List String} :
    BadAt room (.mapping es) place ↔
      (place = ["id"] ∧ ¬ IfPresent es "id" IsText) ∨
      (place = ["operator"] ∧ ¬ IfPresent es "operator" IsConnective) ∨
      BadUnder Condition.BadAt es "conditions" place ∨ BadUnder (BadAt inside) es "groups" place := by
  constructor
  · intro h
    cases h with
    | deep h => cases hroom.symm.trans h
    | kind h => exact absurd rfl (h es)
    | id _ h => exact .inl ⟨rfl, h⟩
    | operator _ h => exact .inr (.inl ⟨rfl, h⟩)
    | conditions _ h =>
      simp only [IfPresent, not_forall] at h
      obtain ⟨v, hfound, hv⟩ := h
      exact .inr (.inr (.inl ⟨v, [], hfound, rfl, .inl ⟨rfl, hv⟩⟩))
    | groups _ h =>
      simp only [IfPresent, not_forall] at h
      obtain ⟨v, hfound, hv⟩ := h
      exact .inr (.inr (.inr ⟨v, [], hfound, rfl, .inl ⟨rfl, hv⟩⟩))
    | @condition _ _ _ items index c place _ hitems hc h =>
      refine .inr (.inr (.inl ⟨_, _, hitems, rfl, .inr ⟨items, rfl, index, c, place, hc, ?_, h⟩⟩))
      rw [Nat.zero_add]
    | @subGroup _ _ _ items index g place hroom' hitems hg h =>
      cases hroom.symm.trans hroom'
      refine .inr (.inr (.inr ⟨_, _, hitems, rfl, .inr ⟨items, rfl, index, g, place, hg, ?_, h⟩⟩))
      rw [Nat.zero_add]
  · rintro (⟨rfl, h⟩ | ⟨rfl, h⟩ | ⟨v, rest, hfound, rfl, h⟩ | ⟨v, rest, hfound, rfl, h⟩)
    · exact .id hroom h
    · exact .operator hroom h
    · rcases h with ⟨rfl, hv⟩ | ⟨items, rfl, i, c, rest, hc, rfl, hbad⟩
      · exact .conditions hroom fun hlist => hv (hlist v hfound)
      · rw [Nat.zero_add]
        exact .condition hroom hfound hc hbad
    · rcases h with ⟨rfl, hv⟩ | ⟨items, rfl, i, g, rest, hg, rfl, hbad⟩
      · exact .groups hroom fun hlist => hv (hlist v hfound)
      · rw [Nat.zero_add]
        exact .subGroup hroom hfound hg hbad

/-- Data that is no group itself, or for which there is no room, is bad at its own place only. -/
theorem badAt_of_deep_or_ne_mapping {room : Option Nat} {v : Value}
    (hv : roomInside? room = none ∨ ∀ es, v ≠ .mapping es) {place : List String} :
    place = [] ↔ BadAt room v place := by
  constructor
  · rintro rfl
    exact hv.elim .deep .kind
  · intro h
    cases h with
    | deep _ | kind _ => rfl
    | _ =>
      rcases hv with hnone | hkind
      · cases hnone.symm.trans ‹roomInside? room = some _›
      · exact absurd rfl (hkind _)

/-- What was found in the sub-groups of a group fits the entry that holds them. -/
def FindsGroups (room : Option Nat) (es : List (Value × Value)) : Option (Checked (List Group)) → Prop
  | none => valueUnder? es "groups" = none
  | some gs => ∃ v, valueUnder? es "groups" = some v ∧ Finds (BadInList (BadAt room) v) gs

theorem FindsGroups.under {room : Option Nat} {es : List (Value × Value)} {found : Option (Checked (List Group))}
    (h : FindsGroups room es found) :
    Finds (BadUnder (BadAt room) es "groups") (Checked.under "groups" (found.getD (.ok []))) := by
  cases found with
  | none => exact finds_absent h
  | some gs =>
    obtain ⟨v, hfound, hgs⟩ := h
    exact finds_entry hfound hgs

mutual

/-- Reading a tree finds what is bad about it, at every depth for which there is room. -/
theorem check_finds : (room : Option Nat) → (v : Value) → v.IsJson → Yields (check room v) (Finds (BadAt room v))
  | room, .mapping es, hv => by
    rw [check]
    split
    · rename_i hnone
      exact yields_pure ((finds_misfit _).congr fun _ => badAt_of_deep_or_ne_mapping (.inl hnone))
    · rename_i inside hinside
      refine (checkId_finds hv).bind fun id hid => ?_
      have hconnective := Schema.withDefault_finds
        (fun v (hfound : valueUnder? es "operator" = some v) =>
          Connective.check_decides (IsJsonWith.valueUnder? hv hfound)) Connective.and
      have hrest : ∀ conditions, Finds (BadUnder Condition.BadAt es "conditions")
            (Checked.under "conditions" conditions) →
          Yields (do
            let groups ← checkEntries inside es
            return ofParts id (Schema.withDefault es "operator" .and Connective.check)
              (Checked.under "conditions" conditions) (Checked.under "groups" (groups.getD (.ok []))))
            (Finds (BadAt room (.mapping es))) :=
        fun conditions hconditions => (checkEntries_finds inside es hv).bind fun found hfound => yields_pure
          ((Finds.map (hid.both (hconnective.both (hconditions.both hfound.under))) _).congr
            fun place => (badAt_mapping hinside).symm)
      dsimp only
      cases hfound : valueUnder? es "conditions" with
      | some v =>
        exact (Condition.checkList_finds (IsJsonWith.valueUnder? hv hfound)).bind fun conditions hconditions =>
          hrest conditions (finds_entry hfound hconditions)
      | none => exact hrest (.ok []) (finds_absent hfound)
  | room, .null, _ | room, .bool _, _ | room, .int _, _ | room, .float _, _ | room, .text _, _
  | room, .collection _ _, _ => by
    rw [check]
    · exact yields_pure ((finds_misfit _).congr fun _ => badAt_of_deep_or_ne_mapping (.inr (by simp)))
    · simp

theorem checkEntries_finds : (room : Option Nat) → (es : List (Value × Value)) → EntriesJson (fun _ => True) es →
    Yields (checkEntries room es) (FindsGroups room es)
  | _, [], _ => yields_pure rfl
  | room, (k, v) :: es, hes => by
    obtain ⟨s, rfl⟩ := hes.1
    rw [checkEntries]
    refine (checkEntries_finds room es hes.2.2).bind fun found hfound => ?_
    cases found with
    | some gs =>
      obtain ⟨w, hw, hgs⟩ := hfound
      refine yields_pure ⟨w, ?_, hgs⟩
      rw [valueUnder?_cons, hw, Option.some_or]
    | none =>
      have hcons := valueUnder?_cons (.text s) v es "groups"
      rw [show valueUnder? es "groups" = none from hfound, Option.none_or] at hcons
      dsimp only at hcons ⊢
      by_cases hs : s = "groups"
      · rw [if_pos hs] at hcons ⊢
        exact (checkList_finds room v hes.2.1).bind fun gs hgs => yields_pure ⟨v, hcons, hgs⟩
      · rw [if_neg hs] at hcons ⊢
        exact yields_pure hcons

theorem checkList_finds : (room : Option Nat) → (v : Value) → v.IsJson →
    Yields (checkList room v) (Finds (BadInList (BadAt room) v))
  | room, .collection .list items, hv => by
    rw [checkList]
    exact fun supply => finds_list (checkAll_finds room items hv 0 supply)
  | room, .mapping _, _ | room, .null, _ | room, .bool _, _ | room, .int _, _ | room, .float _, _
  | room, .text _, _ => by
    rw [checkList]
    · exact yields_pure (finds_noList fun ⟨items, h⟩ => by cases h)
    · simp

theorem checkAll_finds : (room : Option Nat) → (vs : List Value) → AllJson (fun _ => True) vs → (start : Nat) →
    Yields (checkAll room start vs) (Finds (BadFrom (BadAt room) start vs))
  | _, [], _, _ => yields_pure finds_nil
  | room, v :: vs, hvs, start => by
    rw [checkAll]
    exact (check_finds room v hvs.1).bind fun g hg =>
      (checkAll_finds room vs hvs.2 (start + 1)).bind fun gs hgs => yields_pure (hg.cons hgs)

end

/-! ### Places in the data -/

/-- The room that is left at the end of a path. -/
def roomLeft (room : Option Nat) (path : List String) : Option Nat :=
  room.map (· - path.length / 2)

/-- What is bad about a group at the end of a path is bad in the tree, if there is room for all groups before it. -/
theorem badAt_of_groupAt {v g : Value} {path : List String} (h : v.GroupAt path g) {room : Option Nat}
    (hroom : ∀ n ∈ room, path.length ≤ 2 * n) {place : List String} (hbad : BadAt (roomLeft room path) g place) :
    BadAt room v (path ++ place) := by
  induction h generalizing room with
  | here v =>
    have hleft : roomLeft room [] = room := by
      unfold roomLeft
      simp
    rwa [hleft] at hbad
  | @within es items i g sub path hitems hg hsub ih =>
    have hlong : ("groups" :: toString i :: path).length = path.length + 2 := rfl
    obtain ⟨inside, hinside⟩ := exists_roomInside?_eq_some.2 fun n hn => by
      have := hroom n hn
      omega
    refine .subGroup hinside hitems hg ?_
    rcases roomInside?_eq_some.1 hinside with ⟨rfl, rfl⟩ | ⟨n, rfl, rfl⟩
    · exact ih nofun hbad
    · have hleft : roomLeft (some (n + 1)) ("groups" :: toString i :: path) = roomLeft (some n) path := by
        unfold roomLeft
        rw [hlong, Nat.add_div_right _ (by decide), Option.map_some, Option.map_some, Nat.succ_sub_succ]
      rw [hleft] at hbad
      refine ih (fun m hm => ?_) hbad
      cases hm
      have := hroom _ rfl
      omega

/-- There is room for the groups of a tree if there is room for its root, and in it for its sub-groups. -/
theorem nests_iff {v : Value} {room : Option Nat} : v.Nests room ↔ ∃ inside, roomInside? room = some inside ∧
    ∀ es items, v = .mapping es → valueUnder? es "groups" = some (.collection .list items) →
      ∀ g ∈ items, g.Nests inside := by
  constructor
  · intro h
    obtain ⟨inside, hinside⟩ := exists_roomInside?_eq_some.2 fun n hn => by
      have := h [] v (.here v) n hn
      omega
    refine ⟨inside, hinside, ?_⟩
    rintro es items rfl hitems g hg path sub hsub m hm
    obtain ⟨i, hi⟩ := List.mem_iff_getElem?.1 hg
    rcases roomInside?_eq_some.1 hinside with ⟨-, rfl⟩ | ⟨n, rfl, rfl⟩
    · cases hm
    · cases hm
      have hlength : path.length + 2 < 2 * (m + 1) := h _ sub (.within hitems hi hsub) _ rfl
      omega
  · rintro ⟨inside, hinside, hsubs⟩ path g hg n hn
    rcases roomInside?_eq_some.1 hinside with ⟨rfl, -⟩ | ⟨m, rfl, rfl⟩
    · cases hn
    cases hn
    cases hg with
    | here => exact Nat.mul_pos (by decide) (Nat.succ_pos m)
    | @within es items i sub _ path hitems hsub hg =>
      have hlength := hsubs es items rfl hitems sub (List.mem_of_getElem? hsub) path g hg m rfl
      change path.length + 2 < 2 * (m + 1)
      omega

/-- The lists of a tree are short if those of its conditions and of its sub-groups are. -/
theorem listsShort_iff {es : List (Value × Value)} : (mapping es).ListsShort ↔
    (∀ items, valueUnder? es "conditions" = some (.collection .list items) →
      ∀ cs, .mapping cs ∈ items → OperandsShort cs) ∧
    ∀ items, valueUnder? es "groups" = some (.collection .list items) → ∀ g ∈ items, g.ListsShort := by
  constructor
  · intro h
    refine ⟨fun items hitems cs hcs => ?_, fun items hitems g hg path cs hcs => ?_⟩
    · obtain ⟨i, hi⟩ := List.mem_iff_getElem?.1 hcs
      exact h _ cs (.intro (.here _) hitems hi)
    · obtain ⟨i, hi⟩ := List.mem_iff_getElem?.1 hg
      obtain ⟨hgroup, hconditions, hc⟩ := hcs
      exact h _ cs (.intro (.within hitems hi hgroup) hconditions hc)
  · rintro ⟨hown, hsubs⟩ _ cs ⟨hgroup, hitems, hc⟩
    cases hgroup with
    | here => exact hown _ hitems cs (List.mem_of_getElem? hc)
    | within hgroups hg hsub =>
      exact hsubs _ hgroups _ (List.mem_of_getElem? hg) _ cs (.intro hsub hitems hc)

/-! ### Trees and bad places -/

/-- Data without bad places is a tree within the limits. -/
theorem isTree_of_good : (room : Option Nat) → (v : Value) → (∀ place, ¬ BadAt room v place) →
    v.IsTree ∧ v.Nests room ∧ v.ListsShort
  | room, .mapping es, h => by
    obtain ⟨inside, hinside⟩ := Option.ne_none_iff_exists'.1 fun hnone => h [] (.deep hnone)
    have hconditions : ∀ items, valueUnder? es "conditions" = some (.collection .list items) → ∀ c ∈ items,
        c.IsCondition ∧ ∀ cs, c = .mapping cs → OperandsShort cs := fun items hitems c hc => by
      obtain ⟨index, hindex⟩ := List.mem_iff_getElem?.1 hc
      exact Condition.isCondition_iff.1 fun place hbad => h _ (.condition hinside hitems hindex hbad)
    have hgroups : ∀ items, valueUnder? es "groups" = some (.collection .list items) → ∀ g ∈ items,
        g.IsTree ∧ g.Nests inside ∧ g.ListsShort := fun items hitems g hg => by
      obtain ⟨index, hindex⟩ := List.mem_iff_getElem?.1 hg
      exact isTree_of_good inside g fun place hbad => h _ (.subGroup hinside hitems hindex hbad)
    refine ⟨.node ⟨?_, ?_, ?_, ?_⟩ (fun items hitems c hc => (hconditions items hitems c hc).1)
      (fun items hitems g hg => (hgroups items hitems g hg).1), nests_iff.2 ⟨inside, hinside, ?_⟩,
      listsShort_iff.2 ⟨fun items hitems cs hcs => (hconditions items hitems _ hcs).2 cs rfl,
        fun items hitems g hg => (hgroups items hitems g hg).2.2⟩⟩
    · exact not_not.1 fun hnot => h _ (.id hinside hnot)
    · exact not_not.1 fun hnot => h _ (.operator hinside hnot)
    · exact not_not.1 fun hnot => h _ (.conditions hinside hnot)
    · exact not_not.1 fun hnot => h _ (.groups hinside hnot)
    · rintro _ items ⟨⟩ hitems g hg
      exact (hgroups items hitems g hg).2.1
  | _, .null, h | _, .bool _, h | _, .int _, h | _, .float _, h | _, .decimal _, h | _, .text _, h | _, .bytes _, h
  | _, .date _, h | _, .datetime _, h | _, .collection _ _, h | _, .record _, h =>
    absurd (.kind (by simp)) (h [])
termination_by _ v => sizeOf v
decreasing_by
  have hes := sizeOf_lt_of_valueUnder? hitems
  have hmem := List.sizeOf_lt_of_mem hg
  simp only [Value.mapping.sizeOf_spec, Value.collection.sizeOf_spec] at hes ⊢
  omega

/-- No place is bad exactly if the data stands for a tree, there is room for its groups, and its lists are short. -/
theorem isTree_iff {v : Value} {room : Option Nat} :
    (∀ place, ¬ BadAt room v place) ↔ v.IsTree ∧ v.Nests room ∧ v.ListsShort := by
  refine ⟨isTree_of_good room v, ?_⟩
  rintro ⟨htree, hnests, hshort⟩
  induction htree generalizing room with
  | @node es own conditions groups ih =>
    obtain ⟨inside, hinside, hsubs⟩ := nests_iff.1 hnests
    obtain ⟨hshortConditions, hshortGroups⟩ := listsShort_iff.1 hshort
    intro place hbad
    rcases (badAt_mapping hinside).1 hbad with h | h | ⟨v, rest, hfound, -, h⟩ | ⟨v, rest, hfound, -, h⟩
    · exact h.2 own.id
    · exact h.2 own.operator
    · rcases h with ⟨-, hv⟩ | ⟨items, rfl, i, c, inner, hc, -, hbad⟩
      · exact hv (own.conditions v hfound)
      · have hmem := List.mem_of_getElem? hc
        refine Condition.isCondition_iff.2 ⟨conditions items hfound c hmem, ?_⟩ inner hbad
        rintro cs rfl
        exact hshortConditions items hfound cs hmem
    · rcases h with ⟨-, hv⟩ | ⟨items, rfl, i, g, inner, hg, -, hbad⟩
      · exact hv (own.groups v hfound)
      · have hmem := List.mem_of_getElem? hg
        exact ih items hfound g hmem (hsubs es items rfl hfound g hmem) (hshortGroups items hfound g hmem) inner hbad

end Group

end Segmentation
