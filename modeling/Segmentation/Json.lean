import Segmentation.Value

/-!
# JSON data

Plain data as JSON holds it, with integers of any size and floating-point numbers kept apart. The members
of an object keep their order.
-/

namespace Segmentation

/-- A JSON document. -/
inductive Json where
  | null
  | bool (b : Bool)
  | int (n : Int)
  | float (x : Binary64)
  | text (s : String)
  | array (items : List Json)
  | object (members : List (String × Json))

namespace Json

instance : Inhabited Json := ⟨null⟩

mutual

/-- The document as a value. -/
def toValue : Json → Value
  | null => .null
  | bool b => .bool b
  | int n => .int n
  | float x => .float x
  | text s => .text s
  | array items => .collection .list (toValues items)
  | object members => .mapping (toEntries members)

/-- The items of an array as values. -/
def toValues : List Json → List Value
  | [] => []
  | j :: js => toValue j :: toValues js

/-- The members of an object as entries of a mapping. -/
def toEntries : List (String × Json) → List (Value × Value)
  | [] => []
  | (k, j) :: ms => (.text k, toValue j) :: toEntries ms

end

/-- Text or nothing. -/
def ofText? : Option String → Json
  | some s => text s
  | none => null

/-- Adds a member to an object; a member of the same name is replaced where it stands. -/
def setMember (members : List (String × Json)) (key : String) (j : Json) : List (String × Json) :=
  if members.any (·.1 = key) then members.map fun m => if m.1 = key then (key, j) else m
  else members ++ [(key, j)]

end Json

end Segmentation
