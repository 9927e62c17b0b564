import Segmentation.Catalogue.Contact
import Segmentation.Schema.Reading
import Segmentation.Value.Text

/-!
# Catalogues from data

A catalogue is given as a mapping with a list of fields and, optionally, a table of operators by field
type. Well-typed fields and tables make up a catalogue exactly if they are well formed.
-/

namespace Segmentation

namespace Field

/-- The rule about choices that a field breaks, if it breaks one. -/
def brokenRule (f : Field) : BrokenRule :=
  if f.type = .select then .selectWithoutOptions f.key else .optionsWithoutSelect f.key

/-- A field whose choices fit its type. -/
def obeying (f : Field) : Except BrokenRule Field :=
  if f.OptionsFit then .ok f else .error f.brokenRule

end Field

/-- One choice of a select field from data. -/
def FieldOption.check (v : Value) : Checked FieldOption := do
  let es ← Schema.entries v
  (Checked.both (Schema.required es "value" Schema.text)
    (Schema.required es "label" Schema.text)).map fun (value, label) => ⟨value, label⟩

/-- A field definition from data. -/
def Field.check (v : Value) : Checked Field := do
  let es ← Schema.entries v
  let parts :=
    Checked.both (Schema.required es "key" Schema.nonEmptyText) <|
    Checked.both (Schema.required es "label" Schema.text) <|
    Checked.both (Schema.required es "type" (Schema.name FieldType.named?)) <|
    Checked.both (Schema.withDefault es "group" "General" Schema.text) <|
    Checked.both (Schema.withDefault es "options" none
      (Schema.optional (Schema.sequence .notATuple FieldOption.check)))
    (Schema.withDefault es "description" none (Schema.optional Schema.text))
  let (key, label, type, group, options, description) ← parts
  Schema.obeying (Field.obeying ⟨key, label, type, group, options, description⟩)

namespace Catalogue

/-- The first key that stands among the keys before it. -/
def firstRepeated? (seen : List String) : List String → Option String
  | [] => none
  | k :: ks => if k ∈ seen then some k else firstRepeated? (k :: seen) ks

instance (fields : List Field) (table : List (FieldType × List Operator)) :
    Decidable (WellFormed fields table) :=
  decidable_of_iff
    (fields ≠ [] ∧ (fields.map (·.key)).Nodup ∧ (∀ f ∈ fields, f.OptionsFit) ∧
      ∀ type ∈ FieldType.all, operatorsIn table type ≠ [])
    ⟨fun ⟨a, b, c, d⟩ => ⟨a, b, c, d⟩, fun h => ⟨h.1, h.2, h.3, h.4⟩⟩

/-- The first rule that keeps fields and operators from making up a catalogue. -/
def brokenRule (fields : List Field) (table : List (FieldType × List Operator)) : BrokenRule :=
  match fields.find? fun f => !decide f.OptionsFit with
  | some f => f.brokenRule
  | none =>
    if fields.isEmpty then .noFields
    else match firstRepeated? [] (fields.map (·.key)) with
      | some key => .duplicateKey key
      | none =>
        match FieldType.all.find? fun type => (operatorsIn table type).isEmpty with
        | some type => .noOperators type.name
        | none => .noFields

/-- The catalogue of the given fields and operators. -/
def build (fields : List Field) (table : List (FieldType × List Operator)) :
    Except BrokenRule Catalogue :=
  if h : WellFormed fields table then .ok ⟨fields, table, h⟩ else .error (brokenRule fields table)

/-- Adds an entry to a table; an entry for the same type is replaced where it stands. -/
def setOperators (table : List (FieldType × List Operator)) (entry : FieldType × List Operator) :
    List (FieldType × List Operator) :=
  if table.any (·.1 = entry.1) then table.map fun e => if e.1 = entry.1 then entry else e
  else table ++ [entry]

/-- The text of a key as it appears in the place of a problem. -/
def keyText (v : Value) : String :=
  match v.toText with
  | .ok s => s
  | .error _ => ""

/-- A catalogue from data. -/
def check (v : Value) : Checked Catalogue := do
  let es ← Schema.entries v
  let (fields, table) ← Checked.both
    (Schema.required es "fields" (Schema.sequence .notATuple Field.check))
    (Schema.withDefault es "operators_by_type" standardOperators
      (Schema.table (Schema.name FieldType.named?) keyText
        (Schema.sequence .notATuple (Schema.name Operator.named?))))
  Schema.obeying (build fields (table.foldl setOperators []))

end Catalogue

end Segmentation
