import Segmentation.Proofs.Calendar.StoredText
import Segmentation.Proofs.Identifier
import Segmentation.Proofs.Rule.RoundTrip
import Segmentation.Proofs.Yaml.Scan
import Segmentation.Segment.Checking

/-!
# Segments written and read again

* `Segment.Storable`: nothing about the segment changes when it is read from data.
* `Segment.check_encode`: such a segment is read from its data as it was, and no identifier is drawn.
* `Segment.readable_encode`, `Segment.hasSimpleKeys_encode`: its data can be read back from canonical YAML text.
* `Segment.IsPlain`: the segment has no data that writers of YAML are known to lose or to refuse.
-/

namespace Segmentation

/-- Names of parts that are written without quotes. -/
def partNames : List String :=
  ["id", "field", "operator", "value", "value2", "conditions", "groups", "name", "description", "type", "rules",
    "members", "contact_count", "created_at", "updated_at", "segments"]

theorem isSimpleKey_partNames : ∀ k ∈ partNames, Yaml.isSimpleKey k = true ∧ k.length ≤ 1024 := by
  decide +kernel

namespace Yaml

theorem allSimpleKeys_map {α : Type} {f : α → Json} {as : List α} (h : ∀ a ∈ as, HasSimpleKeys (f a)) :
    AllSimpleKeys (as.map f) := by
  induction as with
  | nil => trivial
  | cons a as ih =>
    rw [List.forall_mem_cons] at h
    exact ⟨h.1, ih h.2⟩

/-- The members of a record have names of parts. -/
theorem membersSimpleKeys_of_partNames {ms : List (String × Json)}
    (h : ∀ m ∈ ms, m.1 ∈ partNames ∧ HasSimpleKeys m.2) : MembersSimpleKeys ms := by
  induction ms with
  | nil => trivial
  | cons m ms ih =>
    rw [List.forall_mem_cons] at h
    exact ⟨isSimpleKey_partNames _ h.1.1, h.1.2, ih h.2⟩

end Yaml

open Yaml

theorem Operand.hasSimpleKeys_encode (o : Operand) : HasSimpleKeys o.encode := by
  cases o with
  | texts items => exact allSimpleKeys_map fun _ _ => trivial
  | _ => trivial

theorem Condition.hasSimpleKeys_encode (c : Condition) : HasSimpleKeys c.encode := by
  refine membersSimpleKeys_of_partNames ?_
  simp [partNames, HasSimpleKeys, Operand.hasSimpleKeys_encode]

theorem Group.hasSimpleKeys_encode (t : Group) : HasSimpleKeys t.encode := by
  induction t with
  | node g ih =>
    rw [encode_eq]
    refine membersSimpleKeys_of_partNames ?_
    have hconditions : AllSimpleKeys (g.conditions.map Condition.encode) :=
      allSimpleKeys_map fun c _ => c.hasSimpleKeys_encode
    have hgroups : AllSimpleKeys (g.groups.map encode) := allSimpleKeys_map ih
    simp [partNames, HasSimpleKeys, hconditions, hgroups]

namespace Segment

section

variable [Limits]

/-- Writing the segment as data and reading it leaves it as it is: it has a name, its rules are settled and not nested
too deeply, and its times are written to the minute of their distance from UTC. -/
structure Storable (s : Segment) : Prop where
  name : s.name ≠ ""
  settled : ∀ g ∈ s.rules, g.EachCondition Condition.Settled
  depth : ∀ g ∈ s.rules, g.depth ≤ Limits.written ∧ g.depth ≤ Limits.read
  createdAt : s.createdAt.IsToMinute
  updatedAt : s.updatedAt.IsToMinute

theorem Storable.not_isTooDeep {s : Segment} (hs : s.Storable) : s.isTooDeep = false := by
  rw [isTooDeep]
  cases hrules : s.rules with
  | none => rfl
  | some g => simpa using (hs.depth g hrules).1

end

/-- The rules of a segment as data. -/
def encodeRules : Option Group → Json
  | some g => g.encode
  | none => .null

/-- The entries of a segment. -/
def entries (s : Segment) : List (Value × Value) :=
  [(.text "id", .text s.id), (.text "name", .text s.name), (.text "description", .text s.description),
    (.text "type", .text s.type.name), (.text "rules", (encodeRules s.rules).toValue),
    (.text "members", .collection .list (Json.toValues (s.members.map .text))),
    (.text "contact_count", .int s.contactCount), (.text "created_at", .text s.createdAt.storedText),
    (.text "updated_at", .text s.updatedAt.storedText)]

theorem encode_eq (s : Segment) : s.encode = .object [("id", .text s.id), ("name", .text s.name),
    ("description", .text s.description), ("type", .text s.type.name), ("rules", encodeRules s.rules),
    ("members", .array (s.members.map .text)), ("contact_count", .int s.contactCount),
    ("created_at", .text s.createdAt.storedText), ("updated_at", .text s.updatedAt.storedText)] := by
  unfold encode encodeRules
  cases s.rules <;> rfl

theorem toValue_encode (s : Segment) : s.encode.toValue = .mapping s.entries := by
  rw [encode_eq]
  rfl

/-! ## Parts -/

theorem indexed_text (members : List String) (start : Nat) :
    Checked.indexed start ((Json.toValues (members.map .text)).map Schema.text) = .ok members := by
  induction members generalizing start with
  | nil => rfl
  | cons m members ih =>
    simp only [List.map_cons, Json.toValues, Checked.indexed, ih]
    rfl

theorem checkRules_entries [Limits] {s : Segment} (hs : s.Storable) : checkRules s.entries = pure (.ok s.rules) := by
  unfold checkRules
  have hfound : Value.valueUnder? s.entries "rules" = some (encodeRules s.rules).toValue := rfl
  rw [hfound]
  cases hrules : s.rules with
  | none => rfl
  | some g =>
    have hcheck : Group.checkData g.encode.toValue = pure (.ok g) :=
      Group.check_encode (hs.settled g hrules) fun n hn => Option.mem_some_iff.1 hn ▸ (hs.depth g hrules).2
    simp only [encodeRules, Group.toValue_encode] at hcheck ⊢
    simp only [hcheck, pure_bind]
    rfl

theorem named?_name (type : SegmentType) : SegmentType.named? type.name = some type := by
  cases type <;> decide

theorem ofParts_self (s : Segment) : Membership.ofParts s.name s.type s.rules s.members = .ok s.membership := by
  unfold Segment.type Segment.rules Segment.members
  cases s.membership <;> rfl

theorem check_encode [Limits] {s : Segment} (hs : s.Storable) (now : Calendar.DateTime) :
    check now s.encode.toValue = pure (.ok s) := by
  have hid : checkId s.entries = pure (.ok s.id) := rfl
  have hname : Schema.required s.entries "name" Schema.nonEmptyText = .ok s.name := by
    change Checked.under "name" (if s.name = "" then .misfit .emptyText else .ok s.name) = _
    rw [if_neg hs.name]
    rfl
  have hdescription : Schema.withDefault s.entries "description" "" Schema.text = .ok s.description := rfl
  have htype : Schema.withDefault s.entries "type" .dynamic (Schema.name SegmentType.named?) = .ok s.type := by
    have h : Schema.name SegmentType.named? (.text s.type.name) = .ok s.type := by
      simp only [Schema.name, Schema.text, named?_name]
    change Checked.under "type" (Schema.name SegmentType.named? (.text s.type.name)) = _
    rw [h]
    rfl
  have hmembers : Schema.withDefault s.entries "members" [] (Schema.sequence .notAList Schema.text) =
      .ok s.members := by
    change Checked.under "members" (Checked.indexed 0 ((Json.toValues (s.members.map .text)).map Schema.text)) = _
    rw [indexed_text]
    rfl
  have hcount : Schema.withDefault s.entries "contact_count" 0 (Schema.atLeast 0) = .ok s.contactCount := by
    have h : Schema.atLeast 0 (.int s.contactCount) = .ok s.contactCount := by
      simp [Schema.atLeast, Schema.integer, bind, Except.bind]
    change Checked.under "contact_count" (Schema.atLeast 0 (.int s.contactCount)) = _
    rw [h]
    rfl
  have hcreated : Schema.withDefault s.entries "created_at" now Schema.time = .ok s.createdAt := by
    change Checked.under "created_at" (Schema.time (.text s.createdAt.storedText)) = _
    rw [Schema.time_storedText hs.createdAt]
    rfl
  have hupdated : Schema.withDefault s.entries "updated_at" now Schema.time = .ok s.updatedAt := by
    change Checked.under "updated_at" (Schema.time (.text s.updatedAt.storedText)) = _
    rw [Schema.time_storedText hs.updatedAt]
    rfl
  rw [toValue_encode, check, Schema.entries]
  simp only [hid, checkRules_entries hs, pure_bind, hname, hdescription, htype, hmembers, hcount, hcreated, hupdated]
  simp only [Checked.both, bind, Except.bind, ofParts_self, Schema.obeying]
  rfl

/-- The data of a segment can be read back exactly if its numbers can. -/
theorem readable_encode (dialect : Json.Dialect) (s : Segment) : Json.Readable dialect s.encode ↔
    (∀ g ∈ s.rules, g.EachCondition fun c => c.IntegersHave dialect.Admits ∧ c.IsFinite) ∧
      dialect.Admits s.contactCount := by
  have hrules : Json.Readable dialect (encodeRules s.rules) ↔
      ∀ g ∈ s.rules, g.EachCondition fun c => c.IntegersHave dialect.Admits ∧ c.IsFinite := by
    cases s.rules with
    | none => exact iff_of_true trivial nofun
    | some g => simpa [encodeRules] using Group.readable_encode dialect g
  have hmembers : Json.AllReadable dialect (s.members.map .text) :=
    (Json.allReadable_map_iff (p := fun _ => True) fun _ _ => Iff.rfl).2 fun _ _ => trivial
  rw [encode_eq, ← hrules]
  constructor
  · rintro ⟨-, -, -, -, -, hrules, -, hcount, -⟩
    exact ⟨hrules, hcount⟩
  · rintro ⟨hrules, hcount⟩
    exact ⟨by simp, trivial, trivial, trivial, trivial, hrules, hmembers, hcount, trivial, trivial, trivial⟩

theorem hasSimpleKeys_encode (s : Segment) : HasSimpleKeys s.encode := by
  have hrules : HasSimpleKeys (encodeRules s.rules) := by
    cases s.rules with
    | none => trivial
    | some g => exact g.hasSimpleKeys_encode
  have hmembers : AllSimpleKeys (s.members.map .text) := allSimpleKeys_map fun _ _ => trivial
  rw [encode_eq]
  refine membersSimpleKeys_of_partNames ?_
  simp [partNames, HasSimpleKeys, hrules, hmembers]

end Segment

/-! ## Plain segments -/

/-- The text has no next-line character, which stands for the end of a line in YAML text. -/
def Text.HasNoNextLine (s : String) : Prop :=
  '\x85' ∉ s.toList

instance (s : String) : Decidable (Text.HasNoNextLine s) :=
  inferInstanceAs (Decidable (_ ∉ s.toList))

/-- The texts in an operand have the property. -/
def Operand.EachText (p : String → Prop) : Operand → Prop
  | text s => p s
  | texts items => ∀ s ∈ items, p s
  | _ => True

/-- The texts in a condition have the property. -/
structure Condition.EachText (p : String → Prop) (c : Condition) : Prop where
  id : p c.id
  field : p c.field
  operator : p c.operator.text
  value : c.value.EachText p
  value2 : c.value2.EachText p

/-- The texts in a rule tree have the property. -/
structure Group.EachText (p : String → Prop) (t : Group) : Prop where
  ids : ∀ node ∈ t.preorder, p node.2.id
  conditions : t.EachCondition (Condition.EachText p)

/-- The segment holds nothing that is hard to write: its texts are plain, its numbers have a text, and there is at
most one level of sub-groups in its rules. -/
structure Segment.IsPlain (s : Segment) : Prop where
  id : Text.HasNoNextLine s.id
  name : Text.HasNoNextLine s.name
  description : Text.HasNoNextLine s.description
  members : ∀ m ∈ s.members, Text.HasNoNextLine m
  texts : ∀ g ∈ s.rules, g.EachText Text.HasNoNextLine
  numbers : ∀ g ∈ s.rules, g.EachCondition fun c => c.IntegersHave Integer.HasText ∧ c.IsFinite
  depth : ∀ g ∈ s.rules, g.depth ≤ 2
  contactCount : Integer.HasText s.contactCount

theorem Text.hasNoNextLine_id (n : Nat) : HasNoNextLine (IdSupply.text n) :=
  IdSupply.notMem_text rfl (by decide) n

theorem Text.HasNoNextLine.trim {s : String} (h : HasNoNextLine s) : HasNoNextLine (trim s) := by
  rw [HasNoNextLine, Text.trim, String.toList_ofList]
  exact fun hmem => h (mem_of_mem_trimList hmem)

/-- The numbers of a plain segment can be read back. -/
theorem Segment.IsPlain.readable {s : Segment} (h : s.IsPlain) : Json.Readable .plain s.encode := by
  have hadmits : Json.Dialect.plain.Admits = Integer.HasText := funext fun _ => propext Json.Dialect.admits_plain
  rw [readable_encode, hadmits]
  exact ⟨h.numbers, h.contactCount⟩

end Segmentation
