import Segmentation.Storage.Document

/-!
# File trees

A file tree holds the texts of files and knows which directories there are: those that were made, and all
that lie on the way to a file or to one that was made. Paths are followed from the working directory. Some
files cannot be read: the system does not open them, or they start with bytes that are no text.
-/

namespace Segmentation.Storage

/-- What keeps the text of a file from being read. -/
inductive Barrier where
  | forbidden
  /-- Before its text, the file has bytes that are no text, for a reason in words. -/
  | undecodable (reason : String)

/-- Files by the places that their paths lead to, and directories. -/
structure FileTree where
  work : Path
  files : List (Path × String)
  directories : List Path
  barriers : List (Path × Barrier)

namespace FileTree

/-- No files, seen from a working directory. -/
def empty (work : Path) : FileTree := ⟨work, [], [work], []⟩

/-- The place that a path leads to. -/
def place (t : FileTree) (p : Path) : Path :=
  t.work.resolve p

/-- The place lies in the directory at `directory`, at any depth, or is that directory. -/
def isWithin (place directory : Path) : Bool :=
  place.root = directory.root && directory.names.isPrefixOf place.names

/-- A directory stands at the place. -/
def hasDirectory (t : FileTree) (place : Path) : Bool :=
  place.names.isEmpty || t.directories.any (isWithin · place) ||
    t.files.any fun (file, _) => file ≠ place && isWithin file place

/-- A file stands on the way to a place. -/
def isBlocked (t : FileTree) (place : Path) : Bool :=
  t.files.any fun (file, _) => file ≠ place && isWithin place file

/-- The greatest number of bytes that a name has. -/
def maxNameBytes : Nat := 255

/-- A name on the way to the place, or its own, is too long. -/
def isTooLong (place : Path) : Bool :=
  place.names.any fun name => maxNameBytes < name.utf8ByteSize

/-- What stands at a path. -/
def entry (t : FileTree) (p : Path) : Entry :=
  let place := t.place p
  match t.files.lookup place, t.barriers.lookup place with
  | some text, none => .file text
  | some _, some .forbidden => .closed .forbidden
  | some _, some (.undecodable reason) => .undecodable reason
  | none, _ =>
    if t.hasDirectory place then .directory
    else if t.isBlocked place then .closed .notADirectory
    else if isTooLong place then .closed .nameTooLong
    else .absent

/-- The tree with a directory at a path and all directories on the way. -/
def makeDirectory (t : FileTree) (p : Path) : Except FileFault FileTree :=
  let place := t.place p
  if t.isBlocked place then .error .notADirectory
  else if (t.files.lookup place).isSome then .error .isFile
  else if t.hasDirectory place then .ok t
  else if isTooLong place then .error .nameTooLong
  else .ok { t with directories := t.directories ++ [place] }

/-- The tree with a text in the file at a path. -/
def write (t : FileTree) (p : Path) (text : String) : Except FileFault FileTree :=
  let place := t.place p
  let barriers := t.barriers.filter (·.1 ≠ place)
  if isTooLong place then .error .nameTooLong
  else if t.isBlocked place then .error .notADirectory
  else if (t.files.lookup place).isSome then
    if t.barriers.lookup place matches some .forbidden then .error .forbidden
    else .ok { t with barriers, files := t.files.map fun f => if f.1 = place then (place, text) else f }
  else if t.hasDirectory place then .error .isDirectory
  else if t.hasDirectory place.parent then .ok { t with barriers, files := t.files ++ [(place, text)] }
  else .error .missing

/-- The tree with a text added at the end of the file at a path, which may be new. What keeps an old file from being
read keeps it still. -/
def append (t : FileTree) (p : Path) (text : String) : Except FileFault FileTree :=
  let before := t.files.lookup (t.place p)
  (t.write p (before.getD "" ++ text)).map fun u => if before.isSome then { u with barriers := t.barriers } else u

/-- The names of the files in a directory, in order, with their texts; nothing if there is no such
directory. -/
def filesIn? (t : FileTree) (p : Path) : Option (List (String × String)) :=
  let place := t.place p
  if t.hasDirectory place then
    some ((t.files.filterMap fun (file, text) =>
      if file.parent = place then some (file.name, text) else none).mergeSort fun a b => a.1 ≤ b.1)
  else none

end FileTree

end Segmentation.Storage
