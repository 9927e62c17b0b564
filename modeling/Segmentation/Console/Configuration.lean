import Segmentation.Console.Session

/-!
# Commands about the configuration

Setting up the configuration, and listing the fields and operators of the catalogue.
-/

namespace Segmentation.Console

open Procedure

variable [Terminal] [Storage.Wording]

/-- The version of the program. -/
def versionText : String := "0.1.0"

/-- Shows the version. -/
def version : Procedure Unit :=
  say ("audience-builder v" ++ versionText)

/-- The segments that a new configuration starts with. -/
def exampleSegments : String :=
"# Audience Builder Segments
# Dynamic segments select contacts with AND/OR rule groups.
# Static segments list member e-mails explicitly.

segments:
  - name: \"VIP customers\"
    description: \"Customers tagged vip or premium\"
    type: dynamic
    rules:
      operator: AND
      conditions:
        - field: lifecycle_stage
          operator: equals
          value: customer
      groups:
        - operator: OR
          conditions:
            - field: tags
              operator: contains
              value: vip
            - field: tags
              operator: contains
              value: premium

  - name: \"Recently active leads\"
    description: \"Leads updated in the last 30 days\"
    type: dynamic
    rules:
      operator: AND
      conditions:
        - field: lifecycle_stage
          operator: equals
          value: lead
        - field: updated_at
          operator: in_last_days
          value: 30

  - name: \"Beta testers\"
    description: \"Hand-picked contacts\"
    type: static
    members:
      - ana@example.com
"

/-- Sets up a directory with example segments, unless there are segments already. -/
def init (configDir : Option Path) : Procedure Unit := do
  let given ← settings
  let s := { given with configDir := configDir.getD given.configDir }
  work (Work.changeTree (·.makeDirectory s.configDir))
  let found ← entry s.segmentsPath
  if found = .closed .nameTooLong then throw (.escape (.file .nameTooLong))
  if !found.exists? then
    work (Work.changeTree (·.write s.segmentsPath exampleSegments))
    say (Text.Markup.styled "green" "Created" ++ " " ++ s.segmentsPath.text)
  say ("\n" ++ Text.Markup.styled "bold" "Configuration initialized at:" ++ " " ++ s.configDir.text)

/-- The row of a field. -/
def fieldRow (f : Field) : List String :=
  [f.key, f.label, f.type.name, f.group, Text.join ", " ((f.options.getD []).map (·.value))]

/-- Lists the fields by group. -/
def fields : Procedure Unit := do
  let c ← catalogue (← settings)
  print (.table "Contact Fields" ["Key", "Label", "Type", "Group", "Options"]
    (c.grouped.flatMap fun (_, fields) => fields.map fieldRow))

/-- How many values an operator takes, as it is shown. -/
def valuesTaken (o : Operator) : String :=
  if !o.takesValue then "" else if o.takesSecondValue then "2" else "1"

/-- Lists the operators of one type or of all. -/
def operators (type : Option FieldType) : Procedure Unit := do
  let c ← catalogue (← settings)
  let types := match type with
    | some t => [t]
    | none => FieldType.all
  print (.table "Operators" ["Type", "Operator", "Value"]
    (types.flatMap fun t => (c.operatorsForType t).map fun o => [t.name, o.name, valuesTaken o]))

end Segmentation.Console
