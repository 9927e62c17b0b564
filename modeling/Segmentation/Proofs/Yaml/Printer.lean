import Segmentation.Json
import Segmentation.Number.Binary64.Text
import Segmentation.Number.Integer
import Segmentation.Text.Quoted
import Segmentation.Yaml.Scalar

/-!
# Canonical YAML

A way of writing data that is always read back. Every item and entry stands on a line of its own, indented by two
blanks per level. Text stands between double quotes; a key that could not mean anything else stands without.
-/

namespace Segmentation.Yaml

/-- One character between double quotes; what cannot be shown is escaped by its number. -/
def encodeChar (c : Char) : List Char :=
  if c = '"' || c = '\\' then ['\\', c]
  else if c = '\n' then ['\\', 'n']
  else if c = '\t' then ['\\', 't']
  else if Text.isPrintable c then [c]
  else Text.Quoted.escapeCode c.toNat

/-- Text between double quotes. -/
def quote (s : String) : List Char :=
  '"' :: (s.toList.flatMap encodeChar ++ ['"'])

/-- The key consists of letters, digits and underscores, a letter first, and is read as text. -/
def isSimpleKey (s : String) : Bool :=
  s.toList.head?.any Char.isAlpha && s.toList.all isNameChar && Scalar.tagOf s = .text

/-- A key. -/
def writeKey (s : String) : List Char :=
  if isSimpleKey s then s.toList else quote s

/-- The start of a line on a level. -/
def line (level : Nat) : List Char :=
  '\n' :: List.replicate (2 * level) ' '

mutual

/-- What stands for a value behind the sign that announces it. -/
def write (level : Nat) : Json → List Char
  | .null => " null".toList
  | .bool b => (if b then " true" else " false").toList
  | .int n => ' ' :: Integer.digits n
  | .float x => ' ' :: x.textList .yaml
  | .text s => ' ' :: quote s
  | .array [] => " []".toList
  | .array (j :: js) => writeItems level (j :: js)
  | .object [] => " \x7b\x7d".toList
  | .object (m :: ms) => writeMembers level (m :: ms)

/-- The items of a sequence. -/
def writeItems (level : Nat) : List Json → List Char
  | [] => []
  | j :: js => line level ++ '-' :: write (level + 1) j ++ writeItems level js

/-- The entries of a mapping. -/
def writeMembers (level : Nat) : List (String × Json) → List Char
  | [] => []
  | (k, j) :: ms => line level ++ writeKey k ++ ':' :: write (level + 1) j ++ writeMembers level ms

end

/-- The text of a document. -/
def print (j : Json) : String :=
  String.ofList ((write 0 j).dropWhile (fun c => c = '\n' || c = ' ') ++ ['\n'])

end Segmentation.Yaml
