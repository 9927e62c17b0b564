import Segmentation.Catalogue.Checking
import Segmentation.Catalogue.Contact
import Segmentation.Storage.Document

/-!
# Files of catalogues and contacts

Without a file the catalogue is that of the usual contact fields. A file of contacts is a list of records, or a
mapping with such a list under `contacts`. Items that are no records are passed over. The ending of the file's name
says whether it is in YAML; otherwise it is in JSON.
-/

namespace Segmentation.Storage

/-! ## Catalogues -/

/-- The catalogue of a document; what says nothing counts as an empty mapping. -/
def catalogueOf (document : Value) : Checked Catalogue :=
  Catalogue.check (if document.isSubstantial then document else .mapping [])

/-- The catalogue at a path, if there is anything. -/
def readCatalogue? (found : Entry) : Except Fault (Option Catalogue) := do
  if !found.exists? then return none
  let document ← found.text.bind ofYaml
  return some (← (catalogueOf document).mapError .problems)

/-- The catalogue at a path, or else that of the usual contact fields. -/
def readCatalogue (found : Entry) : Except Fault Catalogue :=
  (readCatalogue? found).map (·.getD .contact)

/-! ## Contacts -/

/-- The file is in YAML. -/
def isYaml (path : Path) : Bool :=
  [".yaml", ".yml"].contains (Text.lower path.suffix)

/-- A contact record. -/
def isRecord : Value → Bool
  | .mapping _ => true
  | _ => false

/-- The contacts of a document. -/
def contactsOf (document : Value) : Except WrongLayout (List Value) :=
  let listed := match document with
    | .mapping entries => (Value.valueUnder? entries "contacts").getD (.collection .list [])
    | v => v
  match listed with
  | .collection .list items => .ok (items.filter isRecord)
  | _ => .error .contactsInNoList

/-- The contacts at a path. -/
def readContacts (path : Path) (found : Entry) : Except Fault (List Value) := do
  let text ← found.text
  let document ← if isYaml path then ofYaml text else ofJson text
  (contactsOf document).mapError .layout

end Segmentation.Storage
