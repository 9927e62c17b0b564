import Segmentation.Calendar.DateTime
import Segmentation.Number.Decimal

/-!
# Values of contact records

A contact record and everything in it is a `Value`: plain data as files hold it, dates, numbers of three
kinds, collections, mappings, and records whose fields are read by name.
-/

namespace Segmentation

/-- The kinds of collections of values. -/
inductive Collection where
  | list
  | tuple
  | set
  | frozenSet
deriving DecidableEq

/-- A value of a contact record. The entries of a mapping and the fields of a record keep their order. -/
inductive Value where
  | null
  | bool (b : Bool)
  | int (n : Int)
  | float (x : Binary64)
  | decimal (d : Decimal)
  | text (s : String)
  | bytes (bs : List UInt8)
  | date (d : Calendar.Date)
  | datetime (d : Calendar.DateTime)
  | collection (kind : Collection) (items : List Value)
  | mapping (entries : List (Value × Value))
  | record (fields : List (String × Value))

namespace Value

instance : Inhabited Value := ⟨null⟩

/-- A mapping with text keys. -/
def ofFields (fields : List (String × Value)) : Value :=
  .mapping (fields.map fun (k, v) => (.text k, v))

/-- The value says nothing: it is absent, an empty text, or a collection or mapping without members. -/
def isEmpty : Value → Bool
  | null => true
  | text s => s = ""
  | collection _ items => items.isEmpty
  | mapping entries => entries.isEmpty
  | _ => false

/-- The value stands for something: it is neither empty, nor false, nor zero. -/
def isSubstantial : Value → Bool
  | null => false
  | bool b => b
  | int n => n ≠ 0
  | float x => x.isNan || x.position ≠ 0
  | decimal d => !d.isZero
  | text s => s ≠ ""
  | bytes bs => !bs.isEmpty
  | collection _ items => !items.isEmpty
  | mapping entries => !entries.isEmpty
  | _ => true

/-- The members of a collection; a single value is its own only member, and blank ones have none. -/
def members : Value → List Value
  | collection _ items => items
  | null => []
  | text s => if s = "" then [] else [text s]
  | v => [v]

/-- The value that a mapping holds under a text key; of several the last one. -/
def valueUnder? (entries : List (Value × Value)) (key : String) : Option Value :=
  (entries.findRev? fun (k, _) => match k with
    | text s => s = key
    | _ => false).map (·.2)

end Value

end Segmentation
