import Segmentation.Catalogue.Operator

/-!
# Field catalogues

A catalogue names the contact fields that conditions can test and the operators that each field type
allows. Order matters: new conditions start on the first field, and a condition that moves to a field
starts with the first operator of its type. A catalogue is well formed by construction, so that every
field has a type with a first operator.
-/

namespace Segmentation

/-- One choice of a select field. -/
structure FieldOption where
  value : String
  label : String
deriving DecidableEq

/-- A contact field that conditions can test. -/
structure Field where
  key : String
  label : String
  type : FieldType
  group : String := "General"
  options : Option (List FieldOption) := none
  description : Option String := none
deriving DecidableEq

/-- Exactly the select fields have choices, and they have at least one. -/
def Field.OptionsFit (f : Field) : Prop :=
  (f.type = .select ↔ f.options.isSome = true) ∧ f.options ≠ some []

instance (f : Field) : Decidable f.OptionsFit :=
  inferInstanceAs (Decidable (_ ∧ _))

/-- The operators that a table lists for a field type. -/
def operatorsIn (table : List (FieldType × List Operator)) (type : FieldType) : List Operator :=
  ((table.find? (·.1 = type)).map (·.2)).getD []

/-- What a set of fields and a table of operators must fulfil to make up a catalogue. -/
structure Catalogue.WellFormed (fields : List Field) (table : List (FieldType × List Operator)) :
    Prop where
  nonempty : fields ≠ []
  keys_nodup : (fields.map (·.key)).Nodup
  optionsFit : ∀ f ∈ fields, f.OptionsFit
  operators : ∀ type ∈ FieldType.all, operatorsIn table type ≠ []

/-- Field definitions and the operators of each field type. -/
structure Catalogue where
  fields : List Field
  operators : List (FieldType × List Operator)
  wellFormed : Catalogue.WellFormed fields operators

namespace Catalogue

/-- The table of the standard operators. -/
def standardOperators : List (FieldType × List Operator) :=
  FieldType.all.map fun type => (type, Operator.standard type)

/-- The field that new conditions test. -/
def firstField (c : Catalogue) : Field :=
  c.fields.head c.wellFormed.nonempty

/-- The field with a key, if the catalogue has one. -/
def field? (c : Catalogue) (key : String) : Option Field :=
  c.fields.find? (·.key = key)

/-- The type of a field; fields that the catalogue does not know hold text. -/
def fieldType (c : Catalogue) (key : String) : FieldType :=
  ((c.field? key).map (·.type)).getD .string

/-- The operators that a field type allows, in display order. -/
def operatorsForType (c : Catalogue) (type : FieldType) : List Operator :=
  operatorsIn c.operators type

/-- The operators that a field allows, in display order. -/
def operatorsFor (c : Catalogue) (key : String) : List Operator :=
  c.operatorsForType (c.fieldType key)

theorem mem_all (type : FieldType) : type ∈ FieldType.all := by
  cases type <;> decide

theorem operatorsForType_ne_nil (c : Catalogue) (type : FieldType) :
    c.operatorsForType type ≠ [] :=
  c.wellFormed.operators type (mem_all type)

/-- The operator with which a condition on a field starts. -/
def defaultOperator (c : Catalogue) (key : String) : Operator :=
  (c.operatorsFor key).head (c.operatorsForType_ne_nil _)

/-- The operator as the type of the field names it, or none if the type does not allow it. -/
def canonicalOperator? (c : Catalogue) (key : String) (operator : Operator) : Option Operator :=
  let type := c.fieldType key
  let operator := if type = .date then operator.onDates else operator
  if operator ∈ c.operatorsForType type then some operator else none

/-- Adds a field to its group; a group that is not there yet goes to the end. -/
def addToGroup (groups : List (String × List Field)) (f : Field) : List (String × List Field) :=
  if groups.any (·.1 = f.group) then
    groups.map fun (name, fs) => if name = f.group then (name, fs ++ [f]) else (name, fs)
  else groups ++ [(f.group, [f])]

/-- The fields by group, groups and fields both in catalogue order. -/
def grouped (c : Catalogue) : List (String × List Field) :=
  c.fields.foldl addToGroup []

end Catalogue

end Segmentation
