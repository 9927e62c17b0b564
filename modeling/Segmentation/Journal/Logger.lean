import Segmentation.Journal.Level
import Segmentation.Storage.Path
import Segmentation.Text.Search

/-!
# Loggers

A logger has a name with dots in it; the loggers above it have the names that remain when parts are dropped
from the end, and above all stands the root. A message goes to the handlers of its logger and then, as long
as loggers pass messages on, to those of the loggers above. Filters of the logger stamp the message with a
tag before that.
-/

namespace Segmentation.Journal

/-- What a handler does with messages. -/
inductive Target where
  /-- Writes them to the file of a segment. -/
  | segmentLog (file : Path)
  /-- Writes errors to a file together with their tags. -/
  | errorLog (file : Path)
  /-- Does something that this library knows nothing about. -/
  | foreign
deriving DecidableEq

/-- A handler. -/
structure Handler where
  id : Nat
  target : Target
deriving DecidableEq

/-- A filter; it stamps messages with the name of a segment if it has one. -/
structure Filter where
  id : Nat
  segment : Option String
deriving DecidableEq

/-- A logger. A level that is not set is that of the logger above. -/
structure Logger where
  level : Level
  passesOn : Bool
  handlers : List Handler
  filters : List Filter
deriving DecidableEq

namespace Logger

/-- A logger that nobody has changed. -/
def plain : Logger := ⟨.notSet, true, [], []⟩

/-- The root, which lets warnings through. -/
def root : Logger := { plain with level := .warning }

/-- Adds a handler unless it is there. -/
def addHandler (l : Logger) (h : Handler) : Logger :=
  if h ∈ l.handlers then l else { l with handlers := l.handlers ++ [h] }

/-- Takes a handler away. -/
def removeHandler (l : Logger) (h : Handler) : Logger :=
  { l with handlers := l.handlers.erase h }

/-- Adds a filter unless it is there. -/
def addFilter (l : Logger) (f : Filter) : Logger :=
  if f ∈ l.filters then l else { l with filters := l.filters ++ [f] }

/-- Takes a filter away. -/
def removeFilter (l : Logger) (f : Filter) : Logger :=
  { l with filters := l.filters.erase f }

/-- The tag that the filters stamp messages with; the last one counts. -/
def tag? (l : Logger) : Option String :=
  l.filters.reverse.findSome? (·.segment)

end Logger

namespace Handler

/-- The least level of the messages that the handler takes. -/
def level (h : Handler) : Level :=
  match h.target with
  | .errorLog _ => .error
  | _ => .notSet

/-- The file that a message is written to and the text that is written, if the handler writes files. -/
def record? (h : Handler) (level : Level) (tag message : String) : Option (Path × String) :=
  match h.target with
  | .segmentLog file => some (file, "[" ++ level.name ++ "] " ++ message)
  | .errorLog file => some (file, "[" ++ level.name ++ "] [" ++ tag ++ "] " ++ message)
  | .foreign => none

end Handler

/-- The names of a logger and of all above it but the root, the nearest first. -/
def lineage (name : String) : List String :=
  let parts := Text.split name '.'
  (List.range parts.length).map fun n => Text.join "." (parts.take (parts.length - n))

end Segmentation.Journal
