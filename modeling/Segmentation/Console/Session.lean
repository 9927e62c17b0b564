import Segmentation.Storage.Inputs
import Segmentation.Storage.Segments
import Segmentation.Workspace

/-!
# Sessions

A command works in a workspace and prints. It may end early with an exit code, after it has said why, or
because of something that was not meant to happen. This module holds the steps that commands share.
-/

namespace Segmentation.Console

open Storage

/-- A workspace and what has been printed. -/
structure Session where
  workspace : Workspace
  printed : List Printed

/-- What ends a command early. -/
inductive Stop where
  | exit (code : Nat)
  | escape (e : Escape)

/-- What a command does. What has been done and printed before a stop stays. -/
abbrev Procedure := ExceptT Stop (StateM Session)

namespace Procedure

/-- Works in the workspace of the session. -/
def work {α : Type} (w : Work α) : Procedure α := do
  let s ← get
  let (result, workspace) := w.run.run s.workspace
  set { s with workspace }
  match result with
  | .ok a => return a
  | .error e => throw (.escape e)

section

variable [Terminal]

/-- Prints one thing, if the terminal can draw it. -/
def print (p : Printed) : Procedure Unit :=
  if Terminal.draws p then modify fun s => { s with printed := s.printed ++ [p] }
  else throw (.escape (.undrawn p))

/-- Prints a line of markup. -/
def say (markup : String) : Procedure Unit :=
  print (.line markup)

/-- Says why the command fails, and ends it. -/
def fail {α : Type} (markup : String) : Procedure α := do
  say markup
  throw (.exit 1)

end

/-- A value that can be read, or an escape. -/
def orFailure {α : Type} : Except Failure α → Procedure α
  | .ok a => pure a
  | .error f => throw (.escape (.failure f))

/-- The settings of the workspace. -/
def settings : Procedure Settings :=
  work (Work.settings [])

/-- What stands at a path. -/
def entry (p : Path) : Procedure Entry :=
  work (Work.entry p)

end Procedure

open Procedure

section

variable [Terminal] [Wording]

/-- What the file found at a path gives, or the end of the command with the words `problem`, if the file holds
something else than it should. -/
def reading {α : Type} (problem : String) (path : Path) (found : Entry) : Except Fault α → Procedure α
  | .ok a => pure a
  | .error fault =>
    if fault.isContent then fail (Text.Markup.styled "red" problem ++ " " ++
      Text.Markup.escape (fault.message path found))
    else throw (.escape (.storage fault))

/-- The configured catalogue. -/
def catalogue (s : Settings) : Procedure Catalogue := do
  match s.cataloguePath? with
  | none => return .contact
  | some path =>
    let found ← entry path
    reading "Invalid field catalogue:" path found (readCatalogue found)

/-- The stored segments. -/
def segments [Limits] (s : Settings) : Procedure (List Segment) := do
  let found ← entry s.segmentsPath
  let now := (← get).workspace.now
  reading "Invalid segments file:" s.segmentsPath found (← work (Work.drawing (readSegments now found)))

end

/-- The segment that a text names. -/
def requireSegment [Terminal] (segments : List Segment) (name : String) : Procedure Segment :=
  match Segment.find? segments name with
  | some s => pure s
  | none => fail (Text.Markup.styled "red" "Segment not found:" ++ " " ++ name)

/-- A value that could be written, or an escape. -/
def orUnwritten {α : Type} : Except WriteFault α → Procedure α
  | .ok a => pure a
  | .error fault => throw (.escape (.unwritten fault))

/-- Stores segments. The file is emptied before the text of their document is put together, and stays empty if there
is none. -/
def saveSegments [Limits] [Yaml.Writer] (s : Settings) (segments : List Segment) : Procedure Unit := do
  work (Work.changeTree (·.makeDirectory s.segmentsPath.parent))
  let document ← orUnwritten (segmentsData segments)
  let text := Yaml.Writer.text document
  work (Work.changeTree (·.write s.segmentsPath (text.toOption.getD "")))
  let _ ← orUnwritten text

end Segmentation.Console
