import Segmentation.Segment

/-!
# Members of static segments

Addresses are trimmed and compared without regard to case. Adding keeps the order and spelling of the
members that are there; removing takes out every member that equals one of the addresses.
-/

namespace Segmentation.Segment

open Calendar

/-- Dynamic segments have no list of members to change. -/
inductive MemberError where
  | addToDynamic (name : String)
  | removeFromDynamic (name : String)
deriving DecidableEq

/-- The refusal in words. -/
def MemberError.message : MemberError → String
  | addToDynamic name => "Cannot add members to dynamic segment '" ++ name ++ "'"
  | removeFromDynamic name => "Cannot remove members from dynamic segment '" ++ name ++ "'"

/-- The addresses without blanks around them and without empty ones. -/
def normalize (emails : List String) : List String :=
  (emails.map Text.trim).filter (· ≠ "")

/-- Appends an address unless it is already there in some spelling. -/
def addMember (members : List String) (email : String) : List String :=
  if Text.lower email ∈ members.map Text.lower then members else members ++ [email]

/-- The members with the addresses appended that are not there yet. -/
def withMembers (members emails : List String) : List String :=
  (normalize emails).foldl addMember members

/-- The members that equal none of the addresses. -/
def withoutMembers (members emails : List String) : List String :=
  let dropped := (normalize emails).map Text.lower
  members.filter fun m => !decide (Text.lower m ∈ dropped)

/-- Sets the members and their number. -/
def setMembers (s : Segment) (members : List String) (now : DateTime) : Segment :=
  { s with membership := .static members, contactCount := members.length, updatedAt := now }

/-- Adds addresses to a static segment. -/
def addMembers (s : Segment) (emails : List String) (now : DateTime) : Except MemberError Segment :=
  match s.membership with
  | .static members => .ok (s.setMembers (withMembers members emails) now)
  | .dynamic _ => .error (.addToDynamic s.name)

/-- Removes addresses from a static segment. -/
def removeMembers (s : Segment) (emails : List String) (now : DateTime) :
    Except MemberError Segment :=
  match s.membership with
  | .static members => .ok (s.setMembers (withoutMembers members emails) now)
  | .dynamic _ => .error (.removeFromDynamic s.name)

end Segmentation.Segment
