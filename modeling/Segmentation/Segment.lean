import Segmentation.Calendar.DateTime
import Segmentation.Editing.Group
import Segmentation.Schema.Problem
import Segmentation.Text.Blank
import Segmentation.Text.Case

/-!
# Segments

A segment is a named audience of contacts. A static one lists its members; a dynamic one selects them by a
rule tree, which may still be missing. The number of contacts is a stored figure that is brought up to date
when the members change or the segment is resolved.
-/

namespace Segmentation

open Calendar

/-- How a segment decides its members. -/
inductive SegmentType where
  | static
  | dynamic
deriving DecidableEq

namespace SegmentType

/-- The name of a segment type. -/
def name : SegmentType → String
  | static => "static"
  | dynamic => "dynamic"

/-- The segment type of a name. -/
def named? (s : String) : Option SegmentType :=
  if s = "static" then some static else if s = "dynamic" then some dynamic else none

end SegmentType

/-- Where the members of a segment come from. -/
inductive Membership where
  | static (members : List String)
  | dynamic (rules : Option Group)

/-- A named audience of contacts. -/
structure Segment where
  id : String
  name : String
  description : String
  membership : Membership
  contactCount : Nat
  createdAt : DateTime
  updatedAt : DateTime

namespace Segment

/-- How the segment decides its members. -/
def type (s : Segment) : SegmentType :=
  match s.membership with
  | .static _ => .static
  | .dynamic _ => .dynamic

/-- The rule tree of a dynamic segment, if it has one. -/
def rules (s : Segment) : Option Group :=
  match s.membership with
  | .static _ => none
  | .dynamic rules => rules

/-- The listed members of a static segment. -/
def members (s : Segment) : List String :=
  match s.membership with
  | .static members => members
  | .dynamic _ => []

theorem membership_eq_static {s : Segment} (h : s.type = .static) : s.membership = .static s.members := by
  obtain ⟨id, name, description, members | rules, count, created, updated⟩ := s
  · rfl
  · cases h

theorem membership_eq_dynamic {s : Segment} (h : s.type = .dynamic) : s.membership = .dynamic s.rules := by
  obtain ⟨id, name, description, members | rules, count, created, updated⟩ := s
  · cases h
  · rfl

/-- Only dynamic segments have rules. -/
theorem type_eq_dynamic {s : Segment} {g : Group} (h : s.rules = some g) : s.type = .dynamic := by
  obtain ⟨id, name, description, members | rules, count, created, updated⟩ := s
  · cases h
  · rfl

/-- A new segment: a static one without members, or a dynamic one with the initial rule tree, whose nodes
take the last two identifiers. The name must not be empty. -/
def create (catalogue : Catalogue) (now : DateTime) (name description : String) (type : SegmentType)
    (id groupId conditionId : String) : Checked Segment :=
  if name = "" then .error [⟨["name"], .emptyText⟩]
  else .ok {
    id := id
    name := name
    description := description
    membership := match type with
      | .static => .static []
      | .dynamic => .dynamic (some (.initial catalogue groupId conditionId))
    contactCount := 0
    createdAt := now
    updatedAt := now }

/-- The segment with a new number of contacts. -/
def withContactCount (s : Segment) (count : Nat) (now : DateTime) : Segment :=
  { s with contactCount := count, updatedAt := now }

/-- The place of the segment that a text names: the one with that identifier, else the first one with that
name in any case. -/
def findIndex? (segments : List Segment) (nameOrId : String) : Option Nat :=
  (segments.findIdx? (·.id = nameOrId)) <|>
    segments.findIdx? fun s => Text.lower s.name = Text.lower nameOrId

/-- The segment that a text names. -/
def find? (segments : List Segment) (nameOrId : String) : Option Segment :=
  (segments.find? (·.id = nameOrId)) <|>
    segments.find? fun s => Text.lower s.name = Text.lower nameOrId

/-- Puts a segment in the place of those with its identifier. -/
def replace (segments : List Segment) (updated : Segment) : List Segment :=
  segments.map fun s => if s.id = updated.id then updated else s

end Segment

end Segmentation
