import Segmentation.Yaml.Token.Quoted

/-!
# Anchors, tags and directives

Anchors and aliases have names. A tag is a handle and a suffix, or all of its text between angle brackets.
A directive before a document says which handles there are.
-/

namespace Segmentation.Yaml.Name

open Scan

/-- A character of a tag. -/
def isTagChar (c : Char) : Bool :=
  isNameChar c || ";/?:@&=+$,.!~*'()[]%".toList.contains c

/-- The character may follow a name. -/
def endsName (c : Option Char) : Bool :=
  endsWord c || c.any ("?:,]\x7d%@`".toList.contains ·)

/-- Takes a name after its sign. -/
def name : Scan String := do
  skip 1
  let cs ← Scan.takeWhile isNameChar
  guard (!cs.isEmpty && endsName (← peek))
  return String.ofList cs

/-- Takes bytes that are written by their numbers after percent signs. -/
def escapedBytes : (fuel : Nat) → Scan (List UInt8)
  | 0 => throw .malformed
  | fuel + 1 => do
    if (← peek) = some '%' then
      skip 1
      let code ← Quoted.hexNumber 2
      return UInt8.ofNat code :: (← escapedBytes fuel)
    else return []

/-- Takes the text of a tag. -/
def tagTextFrom : (fuel : Nat) → Scan (List Char)
  | 0 => throw .malformed
  | fuel + 1 => do
    let run ← Scan.takeWhile fun c => isTagChar c && c ≠ '%'
    if (← peek) = some '%' then
      match String.fromUTF8? ⟨(← escapedBytes (← bound)).toArray⟩ with
      | some s => return run ++ s.toList ++ (← tagTextFrom fuel)
      | none => throw .malformed
    else return run

/-- Takes the text of a tag, which is not empty. -/
def tagText : Scan String := do
  let cs ← tagTextFrom (← bound)
  guard (!cs.isEmpty)
  return String.ofList cs

/-- Takes a handle: an exclamation mark, or a name between two of them. -/
def handle : Scan String := do
  guard ((← peek) = some '!')
  skip 1
  if (← peek) = some ' ' then return "!"
  let cs ← Scan.takeWhile isNameChar
  guard ((← peek) = some '!')
  skip 1
  return String.ofList ('!' :: (cs ++ ['!']))

/-- A blank or the end of a line or of the text. -/
def endsTag (c : Option Char) : Bool :=
  endsLine c || c = some ' '

/-- Takes a tag. -/
def tag : Scan Token := do
  let next ← peekAt 1
  let token ←
    if next = some '<' then do
      skip 2
      let text ← tagText
      guard ((← peek) = some '>')
      skip 1
      pure (Token.tag none text)
    else if endsWord next then do
      skip 1
      pure (Token.tag none "!")
    else do
      let ahead := (← get).rest.tail.takeWhile fun c => !(isBreak c || c = ' ')
      if ahead.contains '!' then
        let h ← handle
        pure (Token.tag (some h) (← tagText))
      else do
        skip 1
        pure (Token.tag (some "!") (← tagText))
  guard (endsTag (← peek))
  return token

/-- Takes the digits of a number. -/
def number : Scan Nat := do
  let digits ← Scan.takeWhile Char.isDigit
  guard (!digits.isEmpty)
  return digits.foldl (fun n c => n * 10 + (c.toNat - 48)) 0

/-- Takes a directive. -/
def directive : Scan Token := do
  skip 1
  let cs ← Scan.takeWhile isNameChar
  guard (!cs.isEmpty && endsTag (← peek))
  let token ←
    if cs = "YAML".toList then do
      let _ ← Scan.takeWhile (· = ' ')
      let major ← number
      guard ((← peek) = some '.')
      skip 1
      let _ ← number
      guard (endsTag (← peek))
      pure (Token.version major)
    else if cs = "TAG".toList then do
      let _ ← Scan.takeWhile (· = ' ')
      let h ← handle
      guard ((← peek) = some ' ')
      let _ ← Scan.takeWhile (· = ' ')
      let start ← tagText
      guard (endsTag (← peek))
      pure (Token.tagHandle h start)
    else do
      let _ ← Scan.takeWhile (!isBreak ·)
      pure Token.otherDirective
  restOfLine
  return token

end Segmentation.Yaml.Name
