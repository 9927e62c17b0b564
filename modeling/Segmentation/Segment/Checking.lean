import Segmentation.Rule.Checking
import Segmentation.Rule.Encoding
import Segmentation.Schema.Number
import Segmentation.Segment

/-!
# Segments as data

All parts of a segment but its name may be missing. A missing identifier is drawn from a supply, and
missing times are the present one. The rules of a segment must not be nested too deeply, read or written.
-/

namespace Segmentation

open Calendar

namespace Membership

/-- Where the members come from, given all that could decide it: a static segment has no rules, and a
dynamic one lists no members. -/
def ofParts (name : String) (type : SegmentType) (rules : Option Group) (members : List String) :
    Except BrokenRule Membership :=
  match type with
  | .static => if rules.isSome then .error (.staticWithRules name) else .ok (.static members)
  | .dynamic => if members.isEmpty then .ok (.dynamic rules) else .error (.dynamicWithMembers name)

end Membership

namespace Segment

section

variable [Limits]

/-- The rule tree of a segment from data. -/
def checkRules (es : List (Value × Value)) : StateM IdSupply (Checked (Option Group)) :=
  match Value.valueUnder? es "rules" with
  | none | some .null => pure (.ok none)
  | some v => do return Checked.under "rules" ((← Group.checkData v).map some)

/-- A segment from data. -/
def check (now : DateTime) (v : Value) : StateM IdSupply (Checked Segment) :=
  match Schema.entries v with
  | .error ps => pure (.error ps)
  | .ok es => do
    let id ← checkId es
    let rules ← checkRules es
    return do
      let (id, name, description, type, rules, members, count, created, updated) ←
        Checked.both id <|
        Checked.both (Schema.required es "name" Schema.nonEmptyText) <|
        Checked.both (Schema.withDefault es "description" "" Schema.text) <|
        Checked.both (Schema.withDefault es "type" .dynamic (Schema.name SegmentType.named?)) <|
        Checked.both rules <|
        Checked.both (Schema.withDefault es "members" [] (Schema.sequence .notAList Schema.text)) <|
        Checked.both (Schema.withDefault es "contact_count" 0 (Schema.atLeast 0)) <|
        Checked.both (Schema.withDefault es "created_at" now Schema.time)
          (Schema.withDefault es "updated_at" now Schema.time)
      let membership ← Schema.obeying (Membership.ofParts name type rules members)
      return ⟨id, name, description, membership, count, created, updated⟩

end

/-- A segment as data. -/
def encode (s : Segment) : Json :=
  .object [("id", .text s.id), ("name", .text s.name), ("description", .text s.description),
    ("type", .text s.type.name),
    ("rules", match s.rules with
      | some g => g.encode
      | none => .null),
    ("members", .array (s.members.map .text)), ("contact_count", .int s.contactCount),
    ("created_at", .text s.createdAt.storedText), ("updated_at", .text s.updatedAt.storedText)]

/-- The rules of the segment are nested too deeply to be written. -/
def isTooDeep [Limits] (s : Segment) : Bool :=
  s.rules.any (Limits.written < ·.depth)

/-- Equality of segments, with floating-point numbers by value and times by the moment. -/
def same (a b : Segment) : Bool :=
  a.id = b.id && a.name = b.name && a.description = b.description && a.type = b.type &&
    (match a.rules, b.rules with
     | some g, some h => g.same h
     | none, none => true
     | _, _ => false) &&
    a.members = b.members && a.contactCount = b.contactCount &&
    a.createdAt.sameMoment b.createdAt && a.updatedAt.sameMoment b.updatedAt

end Segment

end Segmentation
