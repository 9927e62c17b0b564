import Segmentation.Catalogue.Contact
import Segmentation.Console.Printed
import Segmentation.Failure
import Segmentation.Identifier
import Segmentation.Journal
import Segmentation.Limits
import Segmentation.Storage.FileTree

/-!
# The workspace

Work is done among files, with variables of an environment, at a time, and with a journal. The clock of a
workspace stands still while a command runs.
-/

namespace Segmentation

open Calendar Storage

/-- What a command finds and changes. -/
structure Workspace where
  home : Path
  environment : List (String × String)
  tree : FileTree
  journal : Journal
  now : DateTime
  ids : IdSupply

/-- What ends work that was not meant to fail. -/
inductive Escape where
  /-- Data does not fit. -/
  | problems (list : List Problem)
  /-- A file or directory cannot be made. -/
  | file (fault : FileFault)
  /-- A file does not give what it should hold. -/
  | storage (fault : Fault)
  /-- A value cannot be read. -/
  | failure (failure : Failure)
  /-- Data cannot be written. -/
  | unwritten (fault : WriteFault)
  /-- The terminal cannot make sense of what is printed. -/
  | undrawn (printed : Console.Printed)

/-- Work in a workspace. What has been done before an escape stays done. -/
abbrev Work := ExceptT Escape (StateM Workspace)

namespace Work

/-- Work that does not escape. -/
def lift {α : Type} (work : StateM Workspace α) : Work α :=
  ExceptT.lift work

/-- What data gives if it fits. -/
def ofChecked {α : Type} : Checked α → Work α
  | .ok a => pure a
  | .error ps => throw (.problems ps)

/-- Draws on the identifiers of the workspace. -/
def drawing {α : Type} (draw : StateM IdSupply α) : Work α := do
  let w ← get
  let (a, ids) := draw.run w.ids
  set { w with ids }
  return a

/-- Changes the files. -/
def changeTree (change : FileTree → Except FileFault FileTree) : Work Unit := do
  let w ← get
  match change w.tree with
  | .ok tree => set { w with tree }
  | .error fault => throw (.file fault)

/-- Changes the journal. -/
def changeJournal (change : Journal → Journal) : Work Unit :=
  modify fun w => { w with journal := change w.journal }

/-- What stands at a path. -/
def entry (p : Path) : Work Entry := do
  return (← get).tree.entry p

/-- The text of the file at a path, if there is one. A file that cannot be read ends the work. -/
def text? (p : Path) : Work (Option String) := do
  match ← entry p with
  | .file text => return some text
  | .undecodable reason => throw (.storage (.undecodable reason))
  | .closed .forbidden => throw (.storage (.file .forbidden))
  | _ => return none

/-- The settings of the workspace, with some given by arguments. -/
def settings (arguments : List (String × Value)) : Work Settings := do
  let w ← get
  let userFile ← text? (Settings.userFile w.home)
  let projectFile ← text? Settings.projectFile
  ofChecked (Settings.check ⟨w.home, arguments, w.environment, userFile, projectFile⟩)

/-- Sets up log files anew, by the given settings or by those of the workspace. -/
def setUpJournal (given : Option Settings) : Work LogFiles := do
  changeJournal (·.reset)
  let files := LogFiles.ofSettings (← match given with
    | some s => pure s
    | none => settings [])
  changeTree (·.makeDirectory files.directory)
  changeJournal (·.setLevel files.level)
  changeTree (·.append (files.pathFor "error") "")
  changeJournal (·.openErrorLog files)
  return files

/-- The logger of a segment. Log files are set up if they are not yet. -/
def segmentLogger (segment : String) : Work String := do
  match (← get).journal.segmentLoggers.lookup segment with
  | some name => return name
  | none =>
    let files ← match (← get).journal.files with
      | some files => pure files
      | none => setUpJournal none
    changeJournal (·.prepareSegment files segment)
    changeTree (·.append (files.pathFor (Journal.safeName segment)) "")
    changeJournal (·.openSegmentLog files segment)
    return Journal.segmentLoggerName segment

/-- Sends a message to a logger. Every entry is a line that starts with the time. -/
def log (logger : String) (level : Journal.Level) (message : String) : Work Unit := do
  let w ← get
  for (file, text) in w.journal.entries logger level message do
    changeTree (·.append file (w.now.stampText ++ " " ++ text ++ "\n"))

end Work

end Segmentation
