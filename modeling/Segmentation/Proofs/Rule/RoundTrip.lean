import Segmentation.Proofs.Json.RoundTrip
import Segmentation.Proofs.Rule.Tree
import Segmentation.Rule.Checking

/-!
# Rule trees written and read again

* `Condition.Settled`: nothing about the condition changes when it is read from data.
* `Group.check_encode`: a tree whose conditions are settled is read from its data as it was, if there is room for it,
  and no identifier is drawn.
* `Group.readable_encode`: its data can be read back from JSON text if the numbers in it can.
* `Group.decode_encode`, `Group.decode_of_read`: so is a tree that is decoded from its data or from its text.
-/

namespace Segmentation

theorem Json.allReadable_map_iff {α : Type} {dialect : Dialect} {encode : α → Json} {p : α → Prop} {xs : List α}
    (h : ∀ x ∈ xs, Readable dialect (encode x) ↔ p x) :
    AllReadable dialect (xs.map encode) ↔ ∀ x ∈ xs, p x := by
  induction xs with
  | nil => simp [AllReadable]
  | cons x xs ih =>
    rw [List.forall_mem_cons] at h ⊢
    rw [List.map_cons, AllReadable, h.1, ih h.2]

/-! ## Parts of a condition -/

namespace Operand

/-- If the operand is an integer, it has the property. -/
def IntegerHas (p : Int → Prop) : Operand → Prop
  | int n => p n
  | _ => True

/-- The operand is no integer that is too long to be written. -/
abbrev HasText (o : Operand) : Prop :=
  o.IntegerHas Integer.HasText

/-- The operand is no floating-point number without digits. -/
def IsFinite : Operand → Prop
  | float x => x.isFinite = true
  | _ => True

theorem mapM_elementText_text (items : List String) :
    (Json.toValues (items.map Json.text)).mapM elementText = .ok items := by
  induction items with
  | nil => rfl
  | cons s items ih => simp only [List.map_cons, Json.toValues, List.mapM_cons, ih]; rfl

theorem check_encode (o : Operand) : check o.encode.toValue = .ok o := by
  cases o with
  | texts items =>
    rw [encode, Json.toValue, check, mapM_elementText_text]
  | _ => rfl

theorem readable_encode (dialect : Json.Dialect) (o : Operand) :
    Json.Readable dialect o.encode ↔ o.IntegerHas dialect.Admits ∧ o.IsFinite := by
  cases o with
  | int n => exact (and_iff_left trivial).symm
  | float x => exact (and_iff_right trivial).symm
  | texts items =>
    refine iff_of_true ?_ ⟨trivial, trivial⟩
    rw [encode, Json.Readable]
    induction items with
    | nil => trivial
    | cons s items ih => exact ⟨trivial, ih⟩
  | _ => exact iff_of_true trivial ⟨trivial, trivial⟩

end Operand

namespace OperatorName

theorem ofText_name (o : Operator) : ofText o.name = known o := by
  cases o <;> decide

/-- A name that was looked up once stays what it is. -/
theorem ofText_text_ofText (s : String) : ofText (ofText s).text = ofText s := by
  rw [ofText.eq_def s]
  cases hlegacy : Operator.ofLegacyName? s with
  | some o => exact ofText_name o
  | none =>
    cases hnamed : Operator.named? s with
    | some o => exact ofText_name o
    | none =>
      change ofText s = unknown s
      rw [ofText, hlegacy, hnamed]

end OperatorName

theorem Connective.check_name (c : Connective) : Connective.check (.text c.name) = .ok c := by
  cases c with
  | and =>
    have hupper : Text.upper "AND" = "AND" := by decide +kernel
    rw [name, check, hupper]
    rfl
  | or =>
    have hupper : Text.upper "OR" = "OR" := by decide +kernel
    rw [name, check, hupper]
    rfl

/-! ## Conditions -/

namespace Condition

/-- Reading the condition from data leaves it as it is: its operator is not the older name of another one. -/
def Settled (c : Condition) : Prop :=
  OperatorName.ofText c.operator.text = c.operator

/-- If the operands of the condition are integers, they have the property. -/
structure IntegersHave (p : Int → Prop) (c : Condition) : Prop where
  value : c.value.IntegerHas p
  value2 : c.value2.IntegerHas p

/-- Both operands of the condition have digits, if they are floating-point numbers. -/
structure IsFinite (c : Condition) : Prop where
  value : c.value.IsFinite
  value2 : c.value2.IsFinite

/-- The entries of a condition. -/
def entries (c : Condition) : List (Value × Value) :=
  [(.text "id", .text c.id), (.text "field", .text c.field),
    (.text "operator", .text c.operator.text), (.text "value", c.value.encode.toValue),
    (.text "value2", c.value2.encode.toValue)]

theorem toValue_encode (c : Condition) : c.encode.toValue = .mapping c.entries :=
  rfl

theorem check_encode {c : Condition} (hc : c.Settled) : check c.encode.toValue = pure (.ok c) := by
  have hid : checkId c.entries = pure (.ok c.id) := rfl
  have hfield : Schema.required c.entries "field" Schema.text = .ok c.field := rfl
  have hoperator : Schema.required c.entries "operator" OperatorName.check = .ok c.operator := by
    change Checked.under "operator" (.ok (OperatorName.ofText c.operator.text)) = _
    rw [show OperatorName.ofText c.operator.text = c.operator from hc]
    rfl
  have hvalue : Schema.withDefault c.entries "value" (.text "") Operand.check = .ok c.value := by
    change Checked.under "value" (Operand.check c.value.encode.toValue) = _
    rw [Operand.check_encode]
    rfl
  have hvalue2 : Schema.withDefault c.entries "value2" .null Operand.check = .ok c.value2 := by
    change Checked.under "value2" (Operand.check c.value2.encode.toValue) = _
    rw [Operand.check_encode]
    rfl
  rw [toValue_encode, check, Schema.entries]
  simp only [hid, pure_bind, hfield, hoperator, hvalue, hvalue2]
  rfl

theorem readable_encode (dialect : Json.Dialect) (c : Condition) :
    Json.Readable dialect c.encode ↔ c.IntegersHave dialect.Admits ∧ c.IsFinite := by
  have hvalue := Operand.readable_encode dialect c.value
  have hvalue2 := Operand.readable_encode dialect c.value2
  constructor
  · rintro ⟨-, -, -, -, h, h2, -⟩
    exact ⟨⟨(hvalue.1 h).1, (hvalue2.1 h2).1⟩, (hvalue.1 h).2, (hvalue2.1 h2).2⟩
  · rintro ⟨⟨h, h2⟩, hfinite, hfinite2⟩
    exact ⟨by simp, trivial, trivial, trivial, hvalue.2 ⟨h, hfinite⟩, hvalue2.2 ⟨h2, hfinite2⟩, trivial⟩

theorem checkAll_encode {cs : List Condition} (hcs : ∀ c ∈ cs, c.Settled) (index : Nat) :
    checkAll index (Json.toValues (cs.map encode)) = pure (.ok cs) := by
  induction cs generalizing index with
  | nil => rfl
  | cons c cs ih =>
    have htail := ih (fun d hd => hcs d (List.mem_cons_of_mem _ hd)) (index + 1)
    simp only [List.map_cons, Json.toValues, checkAll, check_encode (hcs c List.mem_cons_self), htail,
      pure_bind]
    rfl

end Condition

/-! ## Trees -/

namespace Group

/-- The entries of a group. -/
def entries (g : Group) : List (Value × Value) :=
  [(.text "id", .text g.id), (.text "operator", .text g.connective.name),
    (.text "conditions", .collection .list (Json.toValues (g.conditions.map Condition.encode))),
    (.text "groups", .collection .list (Json.toValues (g.groups.map encode)))]

theorem toValue_encode (g : Group) : g.encode.toValue = .mapping g.entries := by
  rw [encode_eq]
  rfl

theorem checkAll_encode {room : Option Nat} {gs : List Group}
    (hgs : ∀ g ∈ gs, check room g.encode.toValue = pure (.ok g)) (index : Nat) :
    checkAll room index (Json.toValues (gs.map encode)) = pure (.ok gs) := by
  induction gs generalizing index with
  | nil => rfl
  | cons g gs ih =>
    have htail := ih (fun d hd => hgs d (List.mem_cons_of_mem _ hd)) (index + 1)
    simp only [List.map_cons, Json.toValues, checkAll, hgs g List.mem_cons_self, htail, pure_bind]
    rfl

theorem roomInside?_eq_some {room inside : Option Nat} : roomInside? room = some inside ↔
    (room = none ∧ inside = none) ∨ ∃ n, room = some (n + 1) ∧ inside = some n := by
  match room with
  | none => simp [roomInside?, eq_comm]
  | some 0 => simp [roomInside?]
  | some (n + 1) => simp [roomInside?, eq_comm]

/-- There is room for a group exactly if there is room for at least one. -/
theorem exists_roomInside?_eq_some {room : Option Nat} :
    (∃ inside, roomInside? room = some inside) ↔ ∀ n ∈ room, 0 < n := by
  match room with
  | none => simp [roomInside?]
  | some 0 => simp [roomInside?]
  | some (n + 1) => simp [roomInside?]

/-- There is room for the tree. -/
def FitsIn (t : Group) (room : Option Nat) : Prop :=
  ∀ n ∈ room, t.depth ≤ n

/-- There is room for a tree if there is room for its root, and in it for its sub-groups. -/
theorem fitsIn_iff {room : Option Nat} {g : Group} : g.FitsIn room ↔
    ∃ inside, roomInside? room = some inside ∧ ∀ sub ∈ g.groups, sub.FitsIn inside := by
  constructor
  · intro h
    obtain ⟨inside, hinside⟩ := exists_roomInside?_eq_some.2 fun n hn => (depth_le_iff.1 (h n hn)).1
    refine ⟨inside, hinside, fun sub hsub m hm => ?_⟩
    rcases roomInside?_eq_some.1 hinside with ⟨-, rfl⟩ | ⟨n, rfl, rfl⟩
    · cases hm
    · cases hm
      exact (depth_le_iff.1 (h _ rfl)).2 sub hsub
  · rintro ⟨inside, hinside, hsubs⟩ n hn
    rcases roomInside?_eq_some.1 hinside with ⟨rfl, -⟩ | ⟨m, rfl, rfl⟩
    · cases hn
    · cases hn
      exact depth_le_iff.2 ⟨Nat.succ_pos m, fun sub hsub => hsubs sub hsub m rfl⟩

/-- A tree of settled conditions is read from its data as it was, and no identifier is drawn. -/
theorem check_encode {t : Group} {room : Option Nat} (ht : t.EachCondition Condition.Settled)
    (hroom : t.FitsIn room) : check room t.encode.toValue = pure (.ok t) := by
  induction t generalizing room with
  | node g ih =>
    rw [eachCondition_iff] at ht
    obtain ⟨inside, hinside, hsubs⟩ := fitsIn_iff.1 hroom
    have hid : checkId g.entries = pure (.ok g.id) := rfl
    have hconnective : Schema.withDefault g.entries "operator" .and Connective.check = .ok g.connective := by
      change Checked.under "operator" (Connective.check (.text g.connective.name)) = _
      rw [Connective.check_name]
      rfl
    have hconditions : Condition.checkList (.collection .list
        (Json.toValues (g.conditions.map Condition.encode))) = pure (.ok g.conditions) :=
      Condition.checkAll_encode ht.1 0
    have hgroups : checkEntries inside g.entries = pure (some (.ok g.groups)) := by
      have hlist := checkAll_encode (fun sub hsub => ih sub hsub (ht.2 sub hsub) (hsubs sub hsub)) 0
      simp only [entries, checkEntries, checkList, hlist, pure_bind, if_true]
    have hfound : Value.valueUnder? g.entries "conditions" = some (.collection .list
        (Json.toValues (g.conditions.map Condition.encode))) := rfl
    rw [toValue_encode, check, hinside]
    simp only [hid, pure_bind, hfound, hconditions, hgroups, hconnective]
    cases g
    rfl

/-- The data of a tree can be read back exactly if its numbers can. -/
theorem readable_encode (dialect : Json.Dialect) (t : Group) : Json.Readable dialect t.encode ↔
    t.EachCondition fun c => c.IntegersHave dialect.Admits ∧ c.IsFinite := by
  induction t with
  | node g ih =>
    rw [eachCondition_iff, encode_eq, ← Json.allReadable_map_iff ih,
      ← Json.allReadable_map_iff fun c _ => Condition.readable_encode dialect c]
    constructor
    · rintro ⟨-, -, -, hconditions, hgroups, -⟩
      exact ⟨hconditions, hgroups⟩
    · rintro ⟨hconditions, hgroups⟩
      exact ⟨by simp, trivial, trivial, hconditions, hgroups, trivial⟩

variable [Limits] {t : Group}

/-- Decoding undoes encoding as data, and draws no identifier. -/
theorem decode_encode (ht : t.EachCondition Condition.Settled) (hdepth : t.depth ≤ Limits.read) :
    decode t.encode.toValue = pure (.ok t) := by
  have hcheck : checkData t.encode.toValue = pure (.ok t) :=
    check_encode ht fun n hn => Option.mem_some_iff.1 hn ▸ hdepth
  rw [toValue_encode] at hcheck ⊢
  simp only [decode, hcheck, pure_bind]
  rfl

/-- Text that is read as the data of a tree is decoded as the tree. -/
theorem decode_of_read {s : String} (ht : t.EachCondition Condition.Settled)
    (hread : Json.read .strict s = .ok t.encode) : decode (.text s) = pure (.ok t) := by
  have hcheck : check none t.encode.toValue = pure (.ok t) := check_encode ht nofun
  simp only [decode, checkText, hread, hcheck, pure_bind]
  rfl

end Group

end Segmentation
