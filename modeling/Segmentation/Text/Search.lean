/-!
# Finding and splitting

Finding and splitting in text, on lists of characters.
-/

namespace Segmentation.Text

/-- `needle` occurs in one piece somewhere in the text. -/
def occursIn (needle : List Char) : List Char → Bool
  | [] => needle.isEmpty
  | c :: cs => needle.isPrefixOf (c :: cs) || occursIn needle cs

/-- The pieces between the separators; always at least one piece. -/
def splitOn (separator : Char) : List Char → List (List Char)
  | [] => [[]]
  | c :: cs =>
    if c = separator then [] :: splitOn separator cs
    else match splitOn separator cs with
      | piece :: pieces => (c :: piece) :: pieces
      | [] => [[c]]

/-- The text starts with `start`. -/
def startsWith (s start : String) : Bool :=
  start.toList.isPrefixOf s.toList

/-- The text ends with `ending`. -/
def endsWith (s ending : String) : Bool :=
  ending.toList.isSuffixOf s.toList

/-- The text holds `part` in one piece. -/
def contains (s part : String) : Bool :=
  occursIn part.toList s.toList

/-- The pieces of the text between the separators. -/
def split (s : String) (separator : Char) : List String :=
  (splitOn separator s.toList).map String.ofList

/-- The texts one after another with `separator` between them. -/
def join (separator : String) (parts : List String) : String :=
  separator.intercalate parts

end Segmentation.Text
