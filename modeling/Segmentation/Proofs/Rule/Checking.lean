import Segmentation.Proofs.Json.Data
import Segmentation.Proofs.Outcome
import Segmentation.Proofs.Rule.RoundTrip
import Segmentation.Rule.Checking

/-!
# Rule trees that were read from data

* `Yields`: what every outcome of a computation with identifiers has in common.
* `Condition.check_settled`: every condition that is read from plain data is settled, and its integers are those of the
  data.
* `Group.check_sound`: so are the conditions of a tree that is read, and there was room for it.
* `Group.decode_settled`, `Group.decode_hasText`: the conditions of a tree that is decoded are settled, and if it is
  decoded from text its integers have a text.
* `Condition.check_mapping_eq_ok`: a condition is read from entries part by part.
* `Condition.check_append_value`, `Condition.check_append_value2`: a further entry for an operand replaces the operand.
-/

namespace Segmentation

/-! ## Computations with identifiers -/

section Yields

variable {α β : Type}

/-- Whatever identifiers are drawn, the outcome has the property. -/
def Yields (x : StateM IdSupply α) (p : α → Prop) : Prop :=
  ∀ supply, p (x.run supply).1

theorem yields_pure {p : α → Prop} {a : α} (ha : p a) : Yields (pure a) p :=
  fun _ => ha

theorem Yields.bind {x : StateM IdSupply α} {next : α → StateM IdSupply β} {p : α → Prop} {q : β → Prop}
    (hx : Yields x p) (hnext : ∀ a, p a → Yields (next a) q) : Yields (x >>= next) q :=
  fun supply => hnext _ (hx supply) _

theorem yields_any (x : StateM IdSupply α) : Yields x fun _ => True :=
  fun _ => trivial

end Yields

/-- If the data fits, it has the property. -/
def Checked.Ensures {α : Type} (p : α → Prop) (x : Checked α) : Prop :=
  ∀ a, x = .ok a → p a

/-! ## Conditions -/

section

variable {p : Int → Prop}

theorem Operand.check_integerHas {v : Value} (hv : v.IsJsonWith p) {o : Operand} (h : check v = .ok o) :
    o.IntegerHas p := by
  cases v with
  | int n =>
    cases h
    exact hv
  | collection kind items =>
    cases kind with
    | list =>
      rw [check] at h
      split at h
      · cases h
        trivial
      · cases h
    | _ => exact hv.elim
  | null | bool b | float x | text s =>
    cases h
    trivial
  | mapping es => cases h
  | _ => exact hv.elim

theorem OperatorName.check_settled {v : Value} (hv : v.IsJsonWith p) {o : OperatorName}
    (h : check v = .ok o) : ofText o.text = o := by
  cases v with
  | text s =>
    cases h
    exact ofText_text_ofText s
  | bytes bs => exact hv.elim
  | _ => cases h

namespace Condition

theorem check_settled {v : Value} (hv : v.IsJsonWith p) :
    Yields (check v) (Checked.Ensures fun c => c.Settled ∧ c.IntegersHave p) := by
  unfold check
  cases v with
  | mapping es =>
    refine (yields_any (checkId es)).bind fun id _ => yields_pure fun c hc => ?_
    obtain ⟨⟨cid, field, operator, value, value2⟩, hparts, rfl⟩ := map_eq_ok.1 hc
    simp only [Checked.both_eq_ok] at hparts
    obtain ⟨-, -, hoperator, hvalue, hvalue2⟩ := hparts
    refine ⟨?_, ?_, ?_⟩
    · obtain ⟨v, hfound, hv'⟩ := Schema.required_eq_ok.1 hoperator
      exact OperatorName.check_settled (Value.IsJsonWith.valueUnder? hv hfound) hv'
    · rcases Schema.withDefault_eq_ok.1 hvalue with ⟨v, hfound, hv'⟩ | ⟨-, rfl⟩
      · exact Operand.check_integerHas (Value.IsJsonWith.valueUnder? hv hfound) hv'
      · trivial
    · rcases Schema.withDefault_eq_ok.1 hvalue2 with ⟨v, hfound, hv'⟩ | ⟨-, rfl⟩
      · exact Operand.check_integerHas (Value.IsJsonWith.valueUnder? hv hfound) hv'
      · trivial
  | _ => exact yields_pure fun c hc => by cases hc

theorem checkAll_settled {vs : List Value} (hvs : Value.AllJson p vs) (index : Nat) :
    Yields (checkAll index vs) (Checked.Ensures fun cs => ∀ c ∈ cs, c.Settled ∧ c.IntegersHave p) := by
  induction vs generalizing index with
  | nil =>
    refine yields_pure fun cs hcs => ?_
    cases hcs
    exact fun c hc => by cases hc
  | cons v vs ih =>
    rw [checkAll]
    refine (check_settled hvs.1).bind fun c hc => (ih hvs.2 (index + 1)).bind fun cs hcs =>
      yields_pure fun all hall => ?_
    obtain ⟨⟨c', cs'⟩, hparts, rfl⟩ := map_eq_ok.1 hall
    rw [Checked.both_eq_ok, Checked.under_eq_ok] at hparts
    exact List.forall_mem_cons.2 ⟨hc c' hparts.1, hcs cs' hparts.2⟩

theorem checkList_settled {v : Value} (hv : v.IsJsonWith p) :
    Yields (checkList v) (Checked.Ensures fun cs => ∀ c ∈ cs, c.Settled ∧ c.IntegersHave p) := by
  cases v with
  | collection kind items =>
    cases kind with
    | list => exact checkAll_settled hv 0
    | _ => exact hv.elim
  | _ => exact yields_pure fun cs hcs => by cases hcs

end Condition

/-! ## Trees -/

namespace Group

/-- What holds of a tree that was read where there was some room: its conditions are settled, their integers have the
property, and there was room for it. -/
structure Sound (p : Int → Prop) (room : Option Nat) (t : Group) : Prop where
  conditions : t.EachCondition fun c => c.Settled ∧ c.IntegersHave p
  fits : t.FitsIn room

/-- All of the groups are sound. -/
def AllSound (p : Int → Prop) (room : Option Nat) (gs : List Group) : Prop :=
  ∀ g ∈ gs, g.Sound p room

theorem ofParts_sound {room inside : Option Nat} (hroom : roomInside? room = some inside) {id : Checked String}
    {connective : Checked Connective} {conditions : Checked (List Condition)} {found : Option (Checked (List Group))}
    (hconditions : Checked.Ensures (fun cs => ∀ c ∈ cs, c.Settled ∧ c.IntegersHave p) conditions)
    (hfound : ∀ gs, found = some gs → Checked.Ensures (AllSound p inside) gs) :
    Checked.Ensures (Sound p room)
      (ofParts id connective (Checked.under "conditions" conditions)
        (Checked.under "groups" (found.getD (.ok [])))) := by
  intro t ht
  obtain ⟨⟨tid, connective, conditions, groups⟩, hparts, rfl⟩ := map_eq_ok.1 ht
  simp only [Checked.both_eq_ok, Checked.under_eq_ok] at hparts
  obtain ⟨-, -, hcs, hgs⟩ := hparts
  have hgroups : AllSound p inside groups := by
    cases found with
    | none =>
      cases hgs
      exact fun g hg => by cases hg
    | some gs => exact hfound gs rfl _ hgs
  exact ⟨eachCondition_iff.2 ⟨hconditions _ hcs, fun g hg => (hgroups g hg).conditions⟩,
    fitsIn_iff.2 ⟨inside, hroom, fun g hg => (hgroups g hg).fits⟩⟩

mutual

theorem check_sound : (room : Option Nat) → (v : Value) → v.IsJsonWith p →
    Yields (check room v) (Checked.Ensures (Sound p room))
  | room, .mapping es, hv => by
    rw [check]
    split
    · exact yields_pure fun t ht => by cases ht
    · rename_i inside hinside
      refine (yields_any (checkId es)).bind fun id _ => ?_
      have hrest : ∀ conditions,
          Checked.Ensures (fun cs => ∀ c ∈ cs, c.Settled ∧ c.IntegersHave p) conditions →
          Yields (do
            let groups ← checkEntries inside es
            return ofParts id (Schema.withDefault es "operator" .and Connective.check)
              (Checked.under "conditions" conditions) (Checked.under "groups" (groups.getD (.ok []))))
            (Checked.Ensures (Sound p room)) :=
        fun conditions hconditions => (checkEntries_sound inside es hv).bind fun found hfound =>
          yields_pure (ofParts_sound hinside hconditions hfound)
      dsimp only
      cases hfound : Value.valueUnder? es "conditions" with
      | some v =>
        exact (Condition.checkList_settled (Value.IsJsonWith.valueUnder? hv hfound)).bind hrest
      | none =>
        refine (yields_pure fun cs hcs => ?_).bind hrest
        cases hcs
        exact fun c hc => by cases hc
  | room, .null, _ | room, .bool _, _ | room, .int _, _ | room, .float _, _ | room, .text _, _
  | room, .collection _ _, _ => by
    rw [check]
    · exact yields_pure fun t ht => by cases ht
    · simp

theorem checkEntries_sound : (room : Option Nat) → (es : List (Value × Value)) → Value.EntriesJson p es →
    Yields (checkEntries room es) (fun found => ∀ gs, found = some gs → Checked.Ensures (AllSound p room) gs)
  | _, [], _ => yields_pure fun gs hgs => by cases hgs
  | room, (k, v) :: es, hes => by
    obtain ⟨s, rfl⟩ := hes.1
    rw [checkEntries]
    refine (checkEntries_sound room es hes.2.2).bind fun found hfound => ?_
    cases found with
    | some gs => exact yields_pure fun gs' hgs' => hfound gs' hgs'
    | none =>
      dsimp only
      by_cases hs : s = "groups"
      · rw [if_pos hs]
        refine (checkList_sound room v hes.2.1).bind fun gs hgs => yields_pure fun gs' hgs' => ?_
        cases hgs'
        exact hgs
      · rw [if_neg hs]
        exact yields_pure fun gs hgs => by cases hgs

theorem checkList_sound : (room : Option Nat) → (v : Value) → v.IsJsonWith p →
    Yields (checkList room v) (Checked.Ensures (AllSound p room))
  | room, .collection .list items, hv => by
    rw [checkList]
    exact checkAll_sound room items hv 0
  | room, .mapping _, _ | room, .null, _ | room, .bool _, _ | room, .int _, _ | room, .float _, _
  | room, .text _, _ => by
    rw [checkList]
    · exact yields_pure fun gs hgs => by cases hgs
    · simp

theorem checkAll_sound : (room : Option Nat) → (vs : List Value) → Value.AllJson p vs → (index : Nat) →
    Yields (checkAll room index vs) (Checked.Ensures (AllSound p room))
  | _, [], _, index => by
    refine yields_pure fun gs hgs => ?_
    cases hgs
    exact fun g hg => by cases hg
  | room, v :: vs, hvs, index => by
    rw [checkAll]
    refine (check_sound room v hvs.1).bind fun g hg => (checkAll_sound room vs hvs.2 (index + 1)).bind
      fun gs hgs => yields_pure fun all hall => ?_
    obtain ⟨⟨g', gs'⟩, hparts, rfl⟩ := map_eq_ok.1 hall
    rw [Checked.both_eq_ok, Checked.under_eq_ok] at hparts
    exact List.forall_mem_cons.2 ⟨hg g' hparts.1, hgs gs' hparts.2⟩

end

variable [Limits]

/-- What was decoded was read from a mapping where there is room for so many groups, or from JSON text, which may have
been given in bytes. -/
inductive DecodedFrom (v : Value) (supply : IdSupply) (t : Group) : Prop where
  | data {es : List (Value × Value)} (hv : v = .mapping es)
      (h : ((check (some Limits.read) v).run supply).1 = .ok t) : DecodedFrom v supply t
  | text {s : String} {j : Json} (hv : v = .text s ∨ ∃ bs, v = .bytes bs)
      (hread : Json.read .strict s = .ok j) (h : ((check none j.toValue).run supply).1 = .ok t) :
      DecodedFrom v supply t

theorem exists_read_of_checkText {s : String} {supply : IdSupply} {t : Group}
    (h : ((checkText s).run supply).1 = .ok t) :
    ∃ j, Json.read .strict s = .ok j ∧ ((check none j.toValue).run supply).1 = .ok t := by
  unfold checkText at h
  split at h
  · rename_i j hread
    exact ⟨j, hread, h⟩
  · cases h

theorem decodedFrom {v : Value} {supply : IdSupply} {t : Group} (h : ((decode v).run supply).1 = .ok t) :
    DecodedFrom v supply t := by
  have hfits {x : StateM IdSupply (Checked Group)}
      (hx : ((do return (← x).mapError DecodeError.problems : StateM IdSupply _).run supply).1 = .ok t) :
      (x.run supply).1 = .ok t := by
    change ((x.run supply).1).mapError DecodeError.problems = _ at hx
    cases hchecked : (x.run supply).1 with
    | ok t' =>
      rw [hchecked] at hx
      cases hx
      rfl
    | error ps =>
      rw [hchecked] at hx
      cases hx
  cases v with
  | mapping es => exact .data rfl (hfits h)
  | text s =>
    obtain ⟨j, hread, hj⟩ := exists_read_of_checkText (hfits h)
    exact .text (.inl rfl) hread hj
  | bytes bs =>
    rw [decode] at h
    split at h
    · obtain ⟨j, hread, hj⟩ := exists_read_of_checkText (hfits h)
      exact .text (.inr ⟨bs, rfl⟩) hread hj
    · cases h
  | _ => cases h

/-- A tree that is decoded from text, from bytes or from plain data consists of settled conditions. -/
theorem decode_settled {v : Value} (hv : v.IsJson ∨ ∃ bs, v = .bytes bs) {supply : IdSupply} {t : Group}
    (h : ((decode v).run supply).1 = .ok t) : t.EachCondition Condition.Settled := by
  rcases decodedFrom h with ⟨rfl, h⟩ | ⟨-, hread, h⟩
  · have hes : (Value.mapping _).IsJson := hv.resolve_right (by rintro ⟨bs, hbs⟩; cases hbs)
    exact fun c hc => ((check_sound _ _ hes supply t h).conditions c hc).1
  · exact fun c hc => ((check_sound _ _ (Json.isJson_of_read hread) supply t h).conditions c hc).1

/-- No integer of a tree is too long to be written if it is decoded from text or bytes, or from data without such
integers. -/
theorem decode_hasText {v : Value} (hv : v.IsJsonWith Integer.HasText ∨ ∃ bs, v = .bytes bs) {supply : IdSupply}
    {t : Group} (h : ((decode v).run supply).1 = .ok t) :
    t.EachCondition (Condition.IntegersHave Integer.HasText) := by
  rcases decodedFrom h with ⟨rfl, h⟩ | ⟨-, hread, h⟩
  · have hes : (Value.mapping _).IsJsonWith Integer.HasText := hv.resolve_right (by rintro ⟨bs, hbs⟩; cases hbs)
    exact fun c hc => ((check_sound _ _ hes supply t h).conditions c hc).2
  · exact fun c hc => ((check_sound _ _ (Json.hasText_of_read hread) supply t h).conditions c hc).2

end Group

end

/-! ## Conditions from entries -/

section

variable {es : List (Value × Value)} {name key : String} {v : Value} {supply : IdSupply}

theorem Value.valueUnder?_append_text (es : List (Value × Value)) (name key : String) (v : Value) :
    valueUnder? (es ++ [(text name, v)]) key = if name = key then some v else valueUnder? es key := by
  unfold valueUnder?
  rw [List.findRev?_eq_find?_reverse, List.findRev?_eq_find?_reverse, List.reverse_append,
    List.reverse_singleton, List.singleton_append, List.find?_cons]
  by_cases hname : name = key <;> simp [hname]

namespace Schema

variable {α : Type} {kind : Value → Checked α}

theorem required_append (hname : name ≠ key) :
    required (es ++ [(.text name, v)]) key kind = required es key kind := by
  rw [required, Value.valueUnder?_append_text, if_neg hname]
  rfl

theorem withDefault_append (hname : name ≠ key) {default : α} :
    withDefault (es ++ [(.text name, v)]) key default kind = withDefault es key default kind := by
  rw [withDefault, Value.valueUnder?_append_text, if_neg hname]
  rfl

theorem withDefault_append_self {default : α} :
    withDefault (es ++ [(.text key, v)]) key default kind = Checked.under key (kind v) := by
  rw [withDefault, Value.valueUnder?_append_text, if_pos rfl]

end Schema

theorem checkId_append (hname : name ≠ "id") : checkId (es ++ [(.text name, v)]) = checkId es := by
  unfold checkId
  rw [Value.valueUnder?_append_text, if_neg hname]

namespace Condition

variable {c : Condition} {o : Operand}

theorem check_mapping_eq_ok :
    ((check (.mapping es)).run supply).1 = .ok c ↔
      ((checkId es).run supply).1 = .ok c.id ∧ Schema.required es "field" Schema.text = .ok c.field ∧
        Schema.required es "operator" OperatorName.check = .ok c.operator ∧
        Schema.withDefault es "value" (.text "") Operand.check = .ok c.value ∧
        Schema.withDefault es "value2" .null Operand.check = .ok c.value2 := by
  rw [check, Schema.entries]
  dsimp only
  change (Checked.both ((checkId es).run supply).1 _).map _ = Except.ok c ↔ _
  rw [map_eq_ok]
  simp only [Prod.exists, Checked.both_eq_ok]
  constructor
  · rintro ⟨id, field, operator, value, value2, hparts, rfl⟩
    exact hparts
  · intro hparts
    exact ⟨c.id, c.field, c.operator, c.value, c.value2, hparts, rfl⟩

/-- Of several entries for the value the last one counts. -/
theorem check_append_value (h : ((check (.mapping es)).run supply).1 = .ok c) (hv : Operand.check v = .ok o) :
    ((check (.mapping (es ++ [(.text "value", v)]))).run supply).1 = .ok { c with value := o } := by
  obtain ⟨hid, hfield, hoperator, -, hvalue2⟩ := check_mapping_eq_ok.1 h
  rw [check_mapping_eq_ok, checkId_append (by decide), Schema.required_append (by decide),
    Schema.required_append (by decide), Schema.withDefault_append_self, Schema.withDefault_append (by decide),
    Checked.under_eq_ok]
  exact ⟨hid, hfield, hoperator, hv, hvalue2⟩

/-- Of several entries for the upper bound the last one counts. -/
theorem check_append_value2 (h : ((check (.mapping es)).run supply).1 = .ok c) (hv : Operand.check v = .ok o) :
    ((check (.mapping (es ++ [(.text "value2", v)]))).run supply).1 = .ok { c with value2 := o } := by
  obtain ⟨hid, hfield, hoperator, hvalue, -⟩ := check_mapping_eq_ok.1 h
  rw [check_mapping_eq_ok, checkId_append (by decide), Schema.required_append (by decide),
    Schema.required_append (by decide), Schema.withDefault_append (by decide), Schema.withDefault_append_self,
    Checked.under_eq_ok]
  exact ⟨hid, hfield, hoperator, hvalue, hv⟩

end Condition

end

end Segmentation
