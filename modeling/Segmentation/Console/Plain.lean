import Segmentation.Console.Printed
import Segmentation.Text.Markup
import Segmentation.Workspace

/-!
# Plain text

What commands print, without styles: tags are left out, columns of tables are as wide as their widest cell,
and the branches of a tree are indented.
-/

namespace Segmentation.Console

/-- The text of markup after `pending` backslashes, in at most `fuel` steps. Before a tag, two backslashes
stand for one, and a single one escapes the tag. -/
def plainFrom (pending : Nat) : (fuel : Nat) → List Char → List Char
  | 0, cs => cs
  | fuel + 1, cs =>
    match cs with
    | [] => List.replicate pending '\\'
    | c :: rest =>
      if c = '\\' then plainFrom (pending + 1) fuel rest
      else if c = '[' && Text.Markup.isTag rest then
        List.replicate (pending / 2) '\\' ++
          (if pending % 2 = 1 then c :: plainFrom 0 fuel rest
           else plainFrom 0 fuel ((rest.dropWhile (· ≠ ']')).tail))
      else List.replicate pending '\\' ++ c :: plainFrom 0 fuel rest

/-- The text of markup. -/
def plainText (markup : String) : String :=
  String.ofList (plainFrom 0 (markup.length + 1) markup.toList)

/-- A cell filled up to a width. -/
def cell (width : Nat) (s : String) : String :=
  s ++ String.ofList (List.replicate (width - s.length) ' ')

/-- The widths of columns that hold the rows. -/
def widths (rows : List (List String)) : List Nat :=
  rows.foldl (fun ws row =>
    (List.range (max ws.length row.length)).map fun i =>
      max (ws.getD i 0) ((row[i]?).map (·.length) |>.getD 0)) []

mutual

/-- The lines of a tree that is indented by a number of steps. -/
def treeLines (depth : Nat) : Branch → List String
  | .node label children =>
    (String.ofList (List.replicate (2 * depth) ' ') ++ plainText label) :: branchLines (depth + 1) children

/-- The lines of some branches. -/
def branchLines (depth : Nat) : List Branch → List String
  | [] => []
  | b :: bs => treeLines depth b ++ branchLines depth bs

end

/-- The lines of what is printed. -/
def Printed.lines : Printed → List String
  | .line markup => [plainText markup]
  | .table title columns rows =>
    let rows := columns :: rows.map (·.map plainText)
    let ws := widths rows
    plainText title :: rows.map fun row => Text.join "  " ((row.zip ws).map fun (s, w) => cell w s)
  | .tree root => treeLines 0 root

/-- What ended a command, in words. -/
def Escape.text : Escape → String
  | .problems list => Storage.Wording.problems "" list
  | .file fault | .storage (.file fault) => fault.words
  | .storage fault => fault.message default .absent
  | .failure _ => "A value cannot be read"
  | .unwritten .nestedTooDeep => "Rules are nested too deeply"
  | .unwritten .integerTooLong => "A number is too long to be written"
  | .undrawn _ => "A tag closes a style that is not open"

/-- How the program is used. -/
def usageText : String :=
"audience-builder version
audience-builder init [--config-dir DIRECTORY]
audience-builder fields
audience-builder operators [TYPE]
audience-builder segments list
audience-builder segments show NAME
audience-builder segments validate [NAME]
audience-builder segments evaluate NAME [--contacts FILE] [--limit NUMBER] [--save]
audience-builder segments create NAME [--description TEXT] [--static]
audience-builder segments add-members NAME EMAIL...
audience-builder segments remove-members NAME EMAIL..."

end Segmentation.Console
