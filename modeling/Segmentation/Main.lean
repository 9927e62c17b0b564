import Segmentation.Calendar.Stored
import Segmentation.Console.Plain
import Segmentation.Console.Run
import Std.Time.DateTime.Timestamp

/-!
# The program

Before a command runs, the files that it may need are read; after it, the files that it changed are written
and what it printed is shown. A file that was not read before, or could not be, is added to at its end.
-/

namespace Segmentation.Main

open Storage

/-- The variables of the environment. -/
def environment : IO (List (String × String)) := do
  let all ← try IO.FS.readFile "/proc/self/environ" catch _ => pure ""
  return (Text.split all '\x00').filterMap fun entry =>
    match Text.splitOn '=' entry.toList with
    | name :: value :: more =>
      some (String.ofList name, String.ofList (List.intercalate ['='] (value :: more)))
    | _ => none

/-- The tree with what stands at a path. -/
def look (t : FileTree) (p : Path) : IO FileTree := do
  let barred (barrier : Barrier) : FileTree :=
    { t with files := (t.place p, "") :: t.files, barriers := (t.place p, barrier) :: t.barriers }
  try
    let text ← IO.FS.readFile p.text
    return { t with files := (t.place p, text) :: t.files }
  catch e =>
    match e with
    | .noFileOrDirectory .. => return t
    | .permissionDenied .. => return barred .forbidden
    | .userError reason => return barred (.undecodable reason)
    | _ => return { t with directories := t.place p :: t.directories }

/-- The time in UTC. -/
def now : IO Calendar.DateTime := do
  let nanos := (← Std.Time.Timestamp.now).toNanosecondsSinceUnixEpoch.toInt
  let micros := nanos / 1000
  return (Calendar.Stored.ofEpoch? (micros / 1000000) (micros % 1000000).toNat).getD default

/-- A supply of identifiers that starts at a random place. -/
def identifiers : IO IdSupply := do
  let bytes ← IO.getRandomBytes 15
  return ⟨bytes.foldl (fun n b => n * 256 + b.toNat) 0⟩

/-- Brings the files from one state to the next. -/
def store (before after : FileTree) : IO Unit := do
  for d in after.directories do
    if !before.directories.contains d then IO.FS.createDirAll d.text
  for (p, text) in after.files do
    let old := before.files.lookup p
    if old ≠ some text then
      -- What was not read is kept, and so is what cannot be read.
      if old.isNone || (after.barriers.lookup p).isSome then
        IO.FS.withFile p.text .append fun file => file.putStr (text.drop (old.getD "").length).toString
      else IO.FS.writeFile p.text text

/-- Runs a command and gives the exit code. -/
def runCommand (c : Console.Command) : IO UInt32 := do
  let given ← environment
  let home := Path.ofText ((given.lookup "HOME").getD "/")
  let work := Path.ofText (toString (← IO.currentDir))
  let tree ← [Settings.userFile home, Settings.projectFile].foldlM look (FileTree.empty work)
  let w : Workspace := ⟨home, given, tree, .empty, ← now, ← identifiers⟩
  let paths := match ((Work.settings []).run.run w).1 with
    | .ok s => c.paths s
    | .error _ => []
  let tree ← paths.foldlM look tree
  let (ending, after) := c.run { w with tree }
  store tree after.tree
  for p in ending.printed do
    p.lines.forM IO.println
  if let some e := ending.escape then IO.eprintln (Console.Escape.text e)
  return ending.code.toUInt32

end Segmentation.Main

/-- Runs the command that the words of the command line ask for. -/
def main (words : List String) : IO UInt32 := do
  match Segmentation.Console.readCommand words with
  | .ok c => Segmentation.Main.runCommand c
  | .error .help =>
    IO.println Segmentation.Console.usageText
    return 0
  | .error .wrong =>
    IO.eprintln Segmentation.Console.usageText
    return 2
