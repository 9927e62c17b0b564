import Segmentation.Json.Reader
import Segmentation.Schema.Problem
import Segmentation.Storage.Path
import Segmentation.Text.Quoted
import Segmentation.Yaml.Reader

/-!
# Files that hold documents

A file is text, and its text is a document in YAML or JSON. Reading what a file should hold can fail at each
step, and a failure keeps its cause. The words for a cause are those of the system where the system is
asked for a file; those of the readers of text and data are a parameter.
-/

namespace Segmentation.Storage

/-- Why the system does not open or make a file or a directory. -/
inductive FileFault where
  | missing
  | forbidden
  | isFile
  | notADirectory
  | isDirectory
  | nameTooLong
deriving DecidableEq

namespace FileFault

/-- The number that the system gives to the fault. -/
def number : FileFault → Nat
  | missing => 2
  | forbidden => 13
  | isFile => 17
  | notADirectory => 20
  | isDirectory => 21
  | nameTooLong => 36

/-- The fault in the words of the system. -/
def words : FileFault → String
  | missing => "No such file or directory"
  | forbidden => "Permission denied"
  | isFile => "File exists"
  | notADirectory => "Not a directory"
  | isDirectory => "Is a directory"
  | nameTooLong => "File name too long"

/-- What the system says about a path. -/
def message (path : Path) (fault : FileFault) : String :=
  "[Errno " ++ toString fault.number ++ "] " ++ fault.words ++ ": " ++ Text.Quoted.text path.text

end FileFault

/-- A document has another layout than the one asked for. -/
inductive WrongLayout where
  | segmentsInNoMapping
  | segmentsInNoList
  | contactsInNoList
deriving DecidableEq

/-- The layout that the file at a path should have, in words. -/
def WrongLayout.message (path : Path) : WrongLayout → String
  | segmentsInNoMapping => "Expected a mapping with a 'segments' list in " ++ path.text
  | segmentsInNoList => "'segments' must be a list in " ++ path.text
  | contactsInNoList => "Expected a list of contacts in " ++ path.text

/-- Why a file does not give what it should hold. -/
inductive Fault where
  /-- The system does not open it. -/
  | file (fault : FileFault)
  /-- Its bytes are no text, for a reason in words. -/
  | undecodable (reason : String)
  | yaml (fault : Yaml.Fault)
  | json (fault : Json.Fault)
  | layout (wrong : WrongLayout)
  | problems (list : List Problem)

/-- What can be found at a path. -/
inductive Entry where
  | absent
  | directory
  | file (text : String)
  /-- A file whose bytes are no text, for a reason in words. -/
  | undecodable (reason : String)
  /-- The system does not let anything be opened there. -/
  | closed (fault : FileFault)
deriving DecidableEq

namespace Entry

/-- There is something at the path, as far as the system tells. -/
def exists? : Entry → Bool
  | absent | closed .notADirectory => false
  | _ => true

/-- The text of a file. -/
def text : Entry → Except Fault String
  | absent => .error (.file .missing)
  | directory => .error (.file .isDirectory)
  | file s => .ok s
  | undecodable reason => .error (.undecodable reason)
  | closed fault => .error (.file fault)

end Entry

/-- The words of those who read text and data about what does not fit there. They depend on the path and the
text of a file. -/
class Wording where
  yaml : Path → String → Yaml.Fault → String
  json : String → Json.Fault → String
  problems : String → List Problem → String

namespace Fault

/-- The fault lies in what a file holds: its text is no document, or not the one asked for. -/
def isContent : Fault → Bool
  | undecodable _ | yaml .malformed | yaml .unreadable | json _ | layout _ | problems _ => true
  | _ => false

/-- The fault of what was found at a path, in words. -/
def message [Wording] (path : Path) (found : Entry) : Fault → String
  | file fault => fault.message path
  | undecodable reason => reason
  | yaml fault => Wording.yaml path (found.text.toOption.getD "") fault
  | json fault => Wording.json (found.text.toOption.getD "") fault
  | layout wrong => wrong.message path
  | problems list => Wording.problems (found.text.toOption.getD "") list

end Fault

instance : Wording where
  yaml path _ _ := "Not a YAML document: " ++ path.text
  json _ _ := "Not a JSON document"
  problems _ list := Text.join "; " (list.map fun p => p.location ++ ": " ++ (p.message?.getD p.misfit.name))

/-- The value of a document in YAML. -/
def ofYaml (s : String) : Except Fault Value :=
  (Yaml.ofText s).mapError .yaml

/-- The value of a document in JSON. -/
def ofJson (s : String) : Except Fault Value :=
  ((Json.read .plain s).map Json.toValue).mapError .json

end Segmentation.Storage
