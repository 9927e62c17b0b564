import Segmentation.Json
import Segmentation.Number.Integer
import Segmentation.Text.Quoted

/-!
# Writing JSON

Compact text has no blanks. Indented text has every item and member on a line of its own, some blanks per
level, and a blank after each colon; empty arrays and objects stay on one line. What has no digits is
written as null.
-/

namespace Segmentation.Json

/-- One character between quotes; control characters are escaped. -/
def encodeChar (c : Char) : List Char :=
  if c = '"' || c = '\\' then ['\\', c]
  else if c = '\x08' then ['\\', 'b']
  else if c = '\x0c' then ['\\', 'f']
  else if c = '\n' then ['\\', 'n']
  else if c = '\r' then ['\\', 'r']
  else if c = '\t' then ['\\', 't']
  else if c.toNat < 0x20 then '\\' :: 'u' :: Text.Quoted.hexDigits 4 c.toNat
  else [c]

/-- Text in quotes. -/
def quote (s : String) : List Char :=
  '"' :: (s.toList.flatMap encodeChar ++ ['"'])

/-- The line break before an item on a level; compact text has none. -/
def newline (indent : Option Nat) (level : Nat) : List Char :=
  match indent with
  | none => []
  | some n => '\n' :: List.replicate (n * level) ' '

/-- The separator between a key and its value. -/
def colon (indent : Option Nat) : List Char :=
  if indent.isSome then [':', ' '] else [':']

mutual

/-- The text of a document on a level. -/
def write (indent : Option Nat) (level : Nat) : Json → List Char
  | null => "null".toList
  | bool b => (if b then "true" else "false").toList
  | int n => Integer.digits n
  | float x => x.textList .json
  | text s => quote s
  | array [] => ['[', ']']
  | array (j :: js) =>
    '[' :: (newline indent (level + 1) ++ write indent (level + 1) j ++
      writeItems indent (level + 1) js ++ newline indent level ++ [']'])
  | object [] => ['\x7b', '\x7d']
  | object ((k, j) :: ms) =>
    '\x7b' :: (newline indent (level + 1) ++ quote k ++ colon indent ++ write indent (level + 1) j ++
      writeMembers indent (level + 1) ms ++ newline indent level ++ ['\x7d'])

/-- The items of an array after the first one. -/
def writeItems (indent : Option Nat) (level : Nat) : List Json → List Char
  | [] => []
  | j :: js => ',' :: (newline indent level ++ write indent level j ++ writeItems indent level js)

/-- The members of an object after the first one. -/
def writeMembers (indent : Option Nat) (level : Nat) : List (String × Json) → List Char
  | [] => []
  | (k, j) :: ms =>
    ',' :: (newline indent level ++ quote k ++ colon indent ++ write indent level j ++
      writeMembers indent level ms)

end

/-- The text of a document, compact or indented by a number of blanks per level. -/
def print (indent : Option Nat) (j : Json) : String :=
  String.ofList (write indent 0 j)

end Segmentation.Json
