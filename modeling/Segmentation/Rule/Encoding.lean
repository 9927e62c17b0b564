import Segmentation.Json.Printer
import Segmentation.Limits
import Segmentation.Rule.Group

/-!
# Rule trees as data

Every node is written with all its parts, in a fixed order. A tree is not written if its groups lie too deep in
each other.
-/

namespace Segmentation

/-- An operand as data. -/
def Operand.encode : Operand → Json
  | null => .null
  | bool b => .bool b
  | int n => .int n
  | float x => .float x
  | text s => .text s
  | texts items => .array (items.map .text)

/-- A condition as data. -/
def Condition.encode (c : Condition) : Json :=
  .object [("id", .text c.id), ("field", .text c.field), ("operator", .text c.operator.text),
    ("value", c.value.encode), ("value2", c.value2.encode)]

namespace Group

mutual

/-- A tree as data. -/
def encode : Group → Json
  | ⟨id, connective, conditions, groups⟩ =>
    .object [("id", .text id), ("operator", .text connective.name),
      ("conditions", .array (conditions.map Condition.encode)), ("groups", .array (encodeAll groups))]

/-- Several trees as data. -/
def encodeAll : List Group → List Json
  | [] => []
  | g :: gs => encode g :: encodeAll gs

end

variable [Limits]

/-- A tree as it is written, if it is. -/
def encodeData (g : Group) : Except WriteFault Json :=
  if Limits.written < g.depth then .error .nestedTooDeep else .ok g.encode

/-- A tree as JSON text, compact or indented by a number of blanks per level. -/
def encodeText (indent : Option Nat) (g : Group) : Except WriteFault String :=
  g.encodeData.map (·.print indent)

end Group

end Segmentation
