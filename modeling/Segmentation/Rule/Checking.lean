import Segmentation.Identifier
import Segmentation.Json.Reader
import Segmentation.Rule.Group
import Segmentation.Schema.Number
import Segmentation.Text.Case
import Segmentation.Value.Text

/-!
# Rule trees from data

A tree is given as nested mappings, all of whose keys but the field and operator of a condition may be
missing; missing identifiers are drawn from a supply. All problems of all nodes are reported. Groups may lie
in each other as deep as there is room. A tree may also be given as JSON text, which has a limit of its own.
-/

namespace Segmentation

namespace Operand

/-- The text of a list element: dates in ISO form, all else as its text. -/
def elementText : Value → Except Failure String
  | .date d => .ok d.text
  | .datetime d => .ok d.isoText
  | v => v.toText

/-- The operand that a text spells out: a flag, a whole number, a number, or else the text itself. -/
def spelled (s : String) : Operand :=
  match Schema.flagWord? s with
  | some b => bool b
  | none =>
    match Schema.integerText? s with
    | some n => int n
    | none =>
      match Binary64.ofText? (Text.trim s) with
      | some x => float x
      | none => text s

/-- An operand from data. Dates become their ISO text, elements of lists become texts if they have one, decimals
become floating-point numbers. Text stays as it is, but bytes stand for what they spell out. -/
def check : Value → Checked Operand
  | .null => .ok null
  | .bool b => .ok (bool b)
  | .int n => .ok (int n)
  | .float x => .ok (float x)
  | .decimal d =>
    match d.toBinary64? with
    | some x => .ok (float x)
    | none => .misfit .noAlternative
  | .text s => .ok (text s)
  | .date d => .ok (text d.text)
  | .datetime d => .ok (text d.isoText)
  | .collection .list items | .collection .tuple items =>
    match items.mapM elementText with
    | .ok ss => .ok (texts ss)
    | .error _ => .misfit .integerTooLong
  | .collection .set items | .collection .frozenSet items =>
    match items.mapM Schema.text with
    | .ok ss => .ok (texts ss)
    | .error _ => .misfit .noAlternative
  | .bytes bs =>
    match Schema.text (.bytes bs) with
    | .ok s => .ok (spelled s)
    | .error _ => .misfit .noAlternative
  | .mapping _ | .record _ => .misfit .noAlternative

end Operand

/-- An operator name from data. Only text is looked up among the older names. -/
def OperatorName.check : Value → Checked OperatorName
  | .text s => .ok (ofText s)
  | v =>
    match Schema.text v with
    | .ok s => .ok (match Operator.named? s with
      | some o => known o
      | none => unknown s)
    | .error _ => .misfit .noAlternative

/-- A connective from data: its name in any case. -/
def Connective.check : Value → Checked Connective
  | .text s => Schema.name named? (.text (Text.upper s))
  | v => Schema.name named? v

/-- An identifier from data, or a fresh one. -/
def checkId (es : List (Value × Value)) : StateM IdSupply (Checked String) :=
  match Value.valueUnder? es "id" with
  | some v => pure (Checked.under "id" (Schema.text v))
  | none => do return .ok (← IdSupply.draw)

/-- A condition from data. -/
def Condition.check (v : Value) : StateM IdSupply (Checked Condition) :=
  match Schema.entries v with
  | .error ps => pure (.error ps)
  | .ok es => do
    let id ← checkId es
    return (Checked.both id <|
      Checked.both (Schema.required es "field" Schema.text) <|
      Checked.both (Schema.required es "operator" OperatorName.check) <|
      Checked.both (Schema.withDefault es "value" (.text "") Operand.check)
        (Schema.withDefault es "value2" .null Operand.check)).map
      fun (id, field, operator, value, value2) => ⟨id, field, operator, value, value2⟩

/-- Conditions from data, the first of which has the given index. -/
def Condition.checkAll (index : Nat) : List Value → StateM IdSupply (Checked (List Condition))
  | [] => pure (.ok [])
  | v :: vs => do
    let c ← Condition.check v
    let cs ← checkAll (index + 1) vs
    return (Checked.both (Checked.under (toString index) c) cs).map fun (c, cs) => c :: cs

/-- The conditions of a group from data. -/
def Condition.checkList : Value → StateM IdSupply (Checked (List Condition))
  | .collection _ items => Condition.checkAll 0 items
  | _ => pure (Checked.misfit .notATuple)

namespace Group

/-- The parts of a group, if all of them fit. -/
def ofParts (id : Checked String) (connective : Checked Connective)
    (conditions : Checked (List Condition)) (groups : Checked (List Group)) : Checked Group :=
  (Checked.both id (Checked.both connective (Checked.both conditions groups))).map
    fun (id, connective, conditions, groups) => ⟨id, connective, conditions, groups⟩

/-- The room inside a group, if there is room for the group itself. Without a number there is room for any
number of groups. -/
def roomInside? : (room : Option Nat) → Option (Option Nat)
  | none => some none
  | some 0 => none
  | some (n + 1) => some (some n)

mutual

/-- A group from data. -/
def check (room : Option Nat) : Value → StateM IdSupply (Checked Group)
  | .mapping es =>
    match roomInside? room with
    | none => pure (Checked.misfit .nestedTooDeep)
    | some inside => do
      let id ← checkId es
      let conditions ← match Value.valueUnder? es "conditions" with
        | some v => Condition.checkList v
        | none => pure (.ok [])
      let groups ← checkEntries inside es
      return ofParts id (Schema.withDefault es "operator" .and Connective.check)
        (Checked.under "conditions" conditions) (Checked.under "groups" (groups.getD (.ok [])))
  | _ => pure (Checked.misfit (if (roomInside? room).isSome then .notAStructure else .nestedTooDeep))

/-- The sub-groups among the entries of a group; of several entries the last one counts. -/
def checkEntries (room : Option Nat) : List (Value × Value) → StateM IdSupply (Option (Checked (List Group)))
  | [] => pure none
  | (k, v) :: es => do
    match ← checkEntries room es with
    | some groups => return some groups
    | none =>
      match k with
      | .text s => if s = "groups" then return some (← checkList room v) else return none
      | _ => return none

/-- The sub-groups of a group from data. -/
def checkList (room : Option Nat) : Value → StateM IdSupply (Checked (List Group))
  | .collection _ items => checkAll room 0 items
  | _ => pure (Checked.misfit .notATuple)

/-- Groups from data, the first of which has the given index. -/
def checkAll (room : Option Nat) (index : Nat) : List Value → StateM IdSupply (Checked (List Group))
  | [] => pure (.ok [])
  | v :: vs => do
    let g ← check room v
    let gs ← checkAll room (index + 1) vs
    return (Checked.both (Checked.under (toString index) g) gs).map fun (g, gs) => g :: gs

end

variable [Limits]

/-- A tree from data that is no text. -/
def checkData (v : Value) : StateM IdSupply (Checked Group) :=
  check (some Limits.read) v

/-- A tree from JSON text. The limit of the text is the only one. -/
def checkText (s : String) : StateM IdSupply (Checked Group) :=
  match Json.read .strict s with
  | .ok j => check none j.toValue
  | .error _ => pure (Checked.misfit .notJson)

end Group

/-- Why data could not be decoded as a rule tree. -/
inductive DecodeError where
  | problems (ps : List Problem)
  | wrongKind (kind : String)

/-- The name of a kind of value. -/
def Value.kindName : Value → String
  | .null => "NoneType"
  | .bool _ => "bool"
  | .int _ => "int"
  | .float _ => "float"
  | .decimal _ => "Decimal"
  | .text _ => "str"
  | .bytes _ => "bytes"
  | .date _ => "date"
  | .datetime _ => "datetime"
  | .collection .list _ => "list"
  | .collection .tuple _ => "tuple"
  | .collection .set _ => "set"
  | .collection .frozenSet _ => "frozenset"
  | .mapping _ => "dict"
  | .record _ => "SimpleNamespace"

/-- The words of a decoding error; the problems are reported beside them. -/
def DecodeError.message : DecodeError → String
  | problems _ => "Invalid rule tree"
  | wrongKind kind => "Cannot decode rule tree from " ++ kind

/-- A rule tree from a mapping, or from JSON text given as text or bytes. -/
def Group.decode [Limits] : Value → StateM IdSupply (Except DecodeError Group)
  | .text s => do return (← checkText s).mapError .problems
  | .bytes bs =>
    match Schema.text (.bytes bs) with
    | .ok s => do return (← checkText s).mapError .problems
    | .error _ => return .error (.problems [⟨[], .notJson⟩])
  | .mapping es => do return (← checkData (.mapping es)).mapError .problems
  | v => return .error (.wrongKind v.kindName)

end Segmentation
