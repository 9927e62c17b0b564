import Segmentation.Text.Blank
import Segmentation.Text.Case

/-!
# Console markup

Console markup: tags in square brackets set the style of what follows, up to a tag that closes it. Text that is
shown as it is has its tags escaped by a backslash; backslashes before a tag are doubled, so that they stay
backslashes.
-/

namespace Segmentation.Text.Markup

/-- A character with which the name of a tag starts. -/
def startsName (c : Char) : Bool :=
  ('a' ≤ c && c ≤ 'z') || c = '#' || c = '/' || c = '@'

/-- What follows an opening bracket makes it a tag: a name, and a closing bracket before any other opening
one. -/
def isTag : List Char → Bool
  | [] => false
  | c :: cs => startsName c && (cs.find? fun d => d = '[' || d = ']') = some ']'

/-- Escapes the tags of a text before which `pending` backslashes stand. -/
def escapeFrom (pending : Nat) : List Char → List Char
  | [] => List.replicate pending '\\'
  | c :: cs =>
    if c = '\\' then escapeFrom (pending + 1) cs
    else if c = '[' && isTag cs then List.replicate (2 * pending + 1) '\\' ++ c :: escapeFrom 0 cs
    else List.replicate pending '\\' ++ c :: escapeFrom 0 cs

/-- A single backslash at the end is doubled, so that it does not escape what follows the text. -/
def closeEnd (cs : List Char) : List Char :=
  if "\\".toList.isSuffixOf cs && !"\\\\".toList.isSuffixOf cs then cs ++ ['\\'] else cs

/-- The text with its tags escaped. -/
def escape (s : String) : String :=
  String.ofList (closeEnd (escapeFrom 0 s.toList))

/-- The text in a style. -/
def styled (style s : String) : String :=
  "[" ++ style ++ "]" ++ s ++ "[/" ++ style ++ "]"

/-! ## Reading tags -/

/-- The tags of a text before which `pending` backslashes stand. Of these every two stand for one, and one that is
left over escapes the tag that follows. -/
def tagsFrom (pending : Nat) : List Char → List (List Char)
  | [] => []
  | c :: cs =>
    if c = '\\' then tagsFrom (pending + 1) cs
    else if c = '[' && isTag cs && pending % 2 = 0 then cs.takeWhile (· ≠ ']') :: tagsFrom 0 cs
    else tagsFrom 0 cs

/-- The tags of a line, without their brackets. -/
def tags (s : String) : List String :=
  (tagsFrom 0 s.toList).map String.ofList

/-- The name of a style, in the spelling by which it is compared. -/
def styleName (cs : List Char) : String :=
  Text.lower (Text.trim (String.ofList cs))

/-- Every closing tag closes a style that is open, if the styles `opened` are, the last one first. A closing tag
without a name closes the last one. -/
def closesOpened (opened : List String) : List String → Bool
  | [] => true
  | tag :: tags =>
    match tag.toList.takeWhile (· ≠ '=') with
    | '/' :: name =>
      if styleName name = "" then !opened.isEmpty && closesOpened opened.tail tags
      else opened.contains (styleName name) && closesOpened (opened.erase (styleName name)) tags
    | name => closesOpened (styleName name :: opened) tags

/-- The text can be drawn: no tag closes a style that is not open. -/
def isDrawable (s : String) : Bool :=
  closesOpened [] (tags s)

end Segmentation.Text.Markup
