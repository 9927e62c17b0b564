import Segmentation.Catalogue
import Segmentation.Rule.Group

/-!
# Validation of rule trees

The nodes of a tree are checked against a catalogue in depth-first order, each group before its conditions.
Errors make a condition always false or a node ambiguous; warnings are about trees that can be evaluated
but probably do not say what was meant.
-/

namespace Segmentation

/-- How serious an issue is. -/
inductive Severity where
  | error
  | warning
deriving DecidableEq

/-- The name of a severity. -/
def Severity.name : Severity → String
  | error => "error"
  | warning => "warning"

/-- What is wrong with a node. -/
inductive Defect where
  | duplicateId (id : String)
  | emptyGroup (connective : Connective)
  | unknownField (field : String)
  | unknownOperator (name : String)
  | operatorNotAllowed (operator : Operator) (type : FieldType) (field : String)
  | noValue (field : String) (operator : Operator)
  | noUpperBound (field : String)
deriving DecidableEq

namespace Defect

/-- How serious a defect is. -/
def severity : Defect → Severity
  | duplicateId _ | unknownOperator _ | operatorNotAllowed .. => .error
  | emptyGroup _ | unknownField _ | noValue .. | noUpperBound _ => .warning

/-- The defect in words. -/
def message : Defect → String
  | duplicateId id => "Duplicate node id '" ++ id ++ "'"
  | emptyGroup connective =>
    "Empty " ++ connective.name ++ " group matches " ++
      (match connective with
       | .and => "every"
       | .or => "no") ++ " contact"
  | unknownField field => "Unknown field '" ++ field ++ "' is treated as text"
  | unknownOperator name => "Unknown operator '" ++ name ++ "'"
  | operatorNotAllowed operator type field =>
    "Operator '" ++ operator.name ++ "' is not valid for " ++ type.name ++ " field '" ++ field ++ "'"
  | noValue field operator => "'" ++ field ++ " " ++ operator.name ++ "' has no value"
  | noUpperBound field => "'" ++ field ++ " between' has no upper bound"

end Defect

/-- A defect of a node in the group at a path. -/
structure Issue where
  path : List Nat
  nodeId : String
  defect : Defect
deriving DecidableEq

namespace Issue

/-- How serious the issue is. -/
def severity (i : Issue) : Severity :=
  i.defect.severity

/-- The path in words. -/
def location (i : Issue) : String :=
  "/".intercalate ("root" :: i.path.map toString)

/-- The issue on one line. -/
def text (i : Issue) : String :=
  "[" ++ i.severity.name ++ "] " ++ i.location ++ ": " ++ i.defect.message

end Issue

namespace Condition

/-- The defects of the operands, which count only if the operator is in order. -/
def operandDefects (c : Condition) (operator : Operator) : List Defect :=
  (if operator.takesValue && c.value.isMissing then [.noValue c.field operator] else []) ++
    (if operator.takesSecondValue && c.value2.isBlank then [.noUpperBound c.field] else [])

/-- The defect of the operator, if it has one; otherwise the defects of the operands. -/
def operatorDefects (catalogue : Catalogue) (c : Condition) : List Defect :=
  match c.operator with
  | .unknown name => [.unknownOperator name]
  | .known operator =>
    match catalogue.canonicalOperator? c.field operator with
    | none => [.operatorNotAllowed operator (catalogue.fieldType c.field) c.field]
    | some _ => c.operandDefects operator

/-- The defects of a condition by itself. -/
def defects (catalogue : Catalogue) (c : Condition) : List Defect :=
  (if (catalogue.field? c.field).isNone then [.unknownField c.field] else []) ++
    c.operatorDefects catalogue

end Condition

/-- A node of a tree as validation sees it: where it stands, its identifier, and its own defects. -/
structure Node where
  path : List Nat
  id : String
  defects : List Defect

namespace Group

/-- The defects of a group by itself. -/
def defects (g : Group) : List Defect :=
  if g.isVacuous then [.emptyGroup g.connective] else []

/-- The group at a path and its conditions, in order. -/
def nodesAt (catalogue : Catalogue) (path : List Nat) (g : Group) : List Node :=
  ⟨path, g.id, g.defects⟩ :: g.conditions.map fun c => ⟨path, c.id, c.defects catalogue⟩

/-- All nodes of a tree, in order. -/
def nodes (catalogue : Catalogue) (g : Group) : List Node :=
  g.preorder.flatMap fun (path, sub) => sub.nodesAt catalogue path

end Group

/-- The issues of a node, given the identifiers before it. -/
def Node.issues (seen : List String) (n : Node) : List Issue :=
  let repeated : List Defect := if n.id ∈ seen then [.duplicateId n.id] else []
  (repeated ++ n.defects).map (⟨n.path, n.id, ·⟩)

/-- The issues of nodes, given the identifiers before them. -/
def issuesFrom (seen : List String) : List Node → List Issue
  | [] => []
  | n :: ns => n.issues seen ++ issuesFrom (n.id :: seen) ns

/-- The issues of a tree, in the order of its nodes. -/
def Group.validate (catalogue : Catalogue) (g : Group) : List Issue :=
  issuesFrom [] (g.nodes catalogue)

end Segmentation
