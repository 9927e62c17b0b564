import Segmentation.Text.Search
import Segmentation.Value

/-!
# Fields of a record

A field is looked up under its whole key first. If nothing is there and the key has dots, its parts lead
step by step into nested mappings and records. Nothing is read out of text, bytes, numbers and flags. Of dates and
decimals only the parts that are numbers are read, and nothing of collections: what else belongs to them is no value
of a record.
-/

namespace Segmentation.Value

open Calendar

/-- The named parts of a date. -/
def datePart (d : Date) (name : String) : Value :=
  if name = "year" then int d.year
  else if name = "month" then int d.month
  else if name = "day" then int d.day
  else null

/-- The named parts of a datetime. -/
def dateTimePart (d : DateTime) (name : String) : Value :=
  let seconds := d.time / microsPerSecond
  if name = "hour" then int (seconds / 3600 : Nat)
  else if name = "minute" then int (seconds / 60 % 60 : Nat)
  else if name = "second" then int (seconds % 60 : Nat)
  else if name = "microsecond" then int (d.time % microsPerSecond : Nat)
  else if name = "fold" then int 0
  else datePart d.date name

/-- The named parts of a decimal. -/
def decimalPart (d : Decimal) (name : String) : Value :=
  if name = "real" then decimal d
  else if name = "imag" then decimal (.finite false 0 0)
  else null

/-- What a value holds under a name; `null` if there is nothing. -/
def lookup (container : Value) (key : String) : Value :=
  match container with
  | mapping entries => (valueUnder? entries key).getD null
  | record fields => ((fields.find? fun (k, _) => k = key).map (·.2)).getD null
  | date d => datePart d key
  | datetime d => dateTimePart d key
  | decimal d => decimalPart d key
  | _ => null

/-- Nothing is stored here. -/
def isNull : Value → Bool
  | null => true
  | _ => false

/-- Follows names into nested values; nothing can be found in nothing. -/
def follow (container : Value) : List String → Value
  | [] => container
  | name :: names =>
    let inner := container.lookup name
    if inner.isNull then null else inner.follow names

/-- The value of a field of a record; `null` if it is absent. -/
def resolve (contact : Value) (key : String) : Value :=
  let value := contact.lookup key
  if value.isNull && key.toList.contains '.' then contact.follow (Text.split key '.') else value

end Segmentation.Value
