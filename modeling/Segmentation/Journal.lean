import Segmentation.Journal.Logger
import Segmentation.Settings
import Segmentation.Text.AlphanumericTable

/-!
# The journal

Every segment has a log file of its own, and there is one more for the errors of all. The journal attaches
handlers and filters to loggers for this and records what it attached, so that a reset takes away exactly
that.
-/

namespace Segmentation

open Journal

/-- Where log files are and how they are written. The two numbers are for rolling files over, and nothing is rolled over
here. -/
structure LogFiles where
  directory : Path
  level : Level
  maxBytes : Nat
  backupCount : Nat
deriving DecidableEq

namespace LogFiles

/-- The log files that settings ask for. -/
def ofSettings (s : Settings) : LogFiles where
  directory := s.logDir
  level := .ofSetting s.logLevel
  maxBytes := s.logRotationMegabytes * 1024 * 1024
  backupCount := s.logBackupCount

/-- The log file of a name. -/
def pathFor (f : LogFiles) (name : String) : Path :=
  f.directory.child ("audience-builder-" ++ name ++ ".log")

end LogFiles

/-- All loggers, and what has been attached to them here. `nextId` numbers handlers and filters. -/
structure Journal where
  loggers : List (String × Logger)
  files : Option LogFiles
  errorHandler : Option Handler
  segmentLoggers : List (String × String)
  handlers : List (String × Handler)
  filters : List (String × Filter)
  nextId : Nat

namespace Journal

/-- Nothing has been attached to any logger. -/
def empty : Journal := ⟨[], none, none, [], [], [], 0⟩

instance : Inhabited Journal := ⟨empty⟩

/-- The name above all loggers of this library. -/
def packageName : String := "audience_builder"

/-- The name of a segment as part of a file's name: letters and digits stay. -/
def safeName (segment : String) : String :=
  String.ofList (segment.toList.map fun c => if Text.isAlphanumeric c then c else '-')

/-- The name of a segment's logger. -/
def segmentLoggerName (segment : String) : String :=
  packageName ++ ".segment." ++ safeName segment

/-- The name under which a logger is found; the root may be asked for by name or by an empty one. -/
def loggerName (name : String) : String :=
  if name = "" then "root" else name

/-- The logger of a name. -/
def logger (j : Journal) (name : String) : Logger :=
  (j.loggers.lookup name).getD (if name = "root" then .root else .plain)

/-- Changes a logger. -/
def update (j : Journal) (name : String) (change : Logger → Logger) : Journal :=
  { j with loggers := (name, change (j.logger name)) :: j.loggers.filter (·.1 ≠ name) }

/-- The loggers that a message to a logger may reach, the nearest first. -/
def chain (j : Journal) (name : String) : List Logger :=
  if name = "root" then [j.logger "root"]
  else (lineage name).map j.logger ++ [j.logger "root"]

/-- The least level of the messages that a logger lets through: the first one that is set. -/
def effectiveLevel (j : Journal) (name : String) : Level :=
  (((j.chain name).map (·.level)).find? (· ≠ .notSet)).getD .notSet

/-- The loggers up to the first one that does not pass messages on. -/
def reached : List Logger → List Logger
  | [] => []
  | l :: ls => if l.passesOn then l :: reached ls else [l]

/-- What is written where when a message is sent to a logger. -/
def entries (j : Journal) (name : String) (level : Level) (message : String) : List (Path × String) :=
  if level.number < (j.effectiveLevel name).number then []
  else
    let tag := (j.logger name).tag?.getD name
    let handlers := (reached (j.chain name)).flatMap (·.handlers)
    (handlers.filter (·.level.number ≤ level.number)).filterMap (·.record? level tag message)

/-- Attaches a handler and records it. -/
def attach (j : Journal) (name : String) (h : Handler) : Journal :=
  let j := j.update name (·.addHandler h)
  { j with handlers := j.handlers ++ [(name, h)] }

/-- Attaches a filter and records it. -/
def attachFilter (j : Journal) (name : String) (f : Filter) : Journal :=
  let j := j.update name (·.addFilter f)
  { j with filters := j.filters ++ [(name, f)] }

/-- Takes away everything that has been attached here. Levels stay as they are. -/
def reset (j : Journal) : Journal :=
  let j := j.handlers.foldl (fun j (name, h) => j.update name (·.removeHandler h)) j
  let j := j.filters.foldl (fun j (name, f) => j.update name (·.removeFilter f)) j
  { j with files := none, errorHandler := none, segmentLoggers := [], handlers := [], filters := [] }

/-- Sets the level of all loggers of this library. -/
def setLevel (j : Journal) (level : Level) : Journal :=
  j.update packageName fun l => { l with level }

/-- Attaches the handler of the log for errors. -/
def openErrorLog (j : Journal) (files : LogFiles) : Journal :=
  let h : Handler := ⟨j.nextId, .errorLog (files.pathFor "error")⟩
  let j := { j with nextId := j.nextId + 1 }.attach packageName h
  { j with files := some files, errorHandler := some h }

/-- Sets up log files anew. -/
def setUp (j : Journal) (files : LogFiles) : Journal :=
  (j.reset.setLevel files.level).openErrorLog files

/-- Prepares the logger of a segment: its level, that it does not pass messages on, and its tag. -/
def prepareSegment (j : Journal) (files : LogFiles) (segment : String) : Journal :=
  let name := segmentLoggerName segment
  let j := j.update name fun l => { l with level := files.level, passesOn := false }
  { j with nextId := j.nextId + 1 }.attachFilter name ⟨j.nextId, some segment⟩

/-- Attaches the handlers of a segment's own log and of the log for errors. -/
def openSegmentLog (j : Journal) (files : LogFiles) (segment : String) : Journal :=
  let name := segmentLoggerName segment
  let h : Handler := ⟨j.nextId, .segmentLog (files.pathFor (safeName segment))⟩
  let j := { j with nextId := j.nextId + 1 }.attach name h
  let j := match j.errorHandler with
    | some e => j.attach name e
    | none => j
  { j with segmentLoggers := j.segmentLoggers ++ [(segment, name)] }

/-- The logger of a segment, which is prepared when it is first asked for. -/
def segmentLogger (j : Journal) (files : LogFiles) (segment : String) : Journal × String :=
  match j.segmentLoggers.lookup segment with
  | some name => (j, name)
  | none => ((j.prepareSegment files segment).openSegmentLog files segment, segmentLoggerName segment)

end Journal

end Segmentation
