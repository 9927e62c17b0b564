import Segmentation.Yaml.Token

/-!
# Indented text

Text under a header is taken line by line as long as the lines are indented. The header says whether line
breaks are kept or folded into blanks, what becomes of the breaks at the end, and, if the first line does
not show it, how far the lines are indented.
-/

namespace Segmentation.Yaml.Block

open Scan

/-- What becomes of the line breaks at the end. -/
inductive Chomping where
  | strip
  | clip
  | keep
deriving DecidableEq

/-- The sign that asks for a treatment of the end. -/
def chomping? (c : Option Char) : Option Chomping :=
  if c = some '+' then some .keep else if c = some '-' then some .strip else none

/-- The number that a digit asks for as additional indentation. -/
def increment? (c : Option Char) : Option Nat :=
  c.bind fun d => if d.isDigit then some (d.toNat - 48) else none

/-- Takes one sign or digit if it means something. -/
def optional {α : Type} (meaning : Option Char → Option α) : Scan (Option α) := do
  let found := meaning (← peek)
  if found.isSome then skip 1
  return found

/-- Takes the signs of a header, in any order. -/
def header : Scan (Chomping × Option Nat) := do
  let first ← optional chomping?
  let increment ← optional increment?
  let second ← if first.isNone && increment.isSome then optional chomping? else pure none
  guard (increment ≠ some 0)
  let next ← peek
  guard (endsLine next || next = some ' ')
  return ((first <|> second).getD .clip, increment)

/-- Takes the blanks of the indentation, up to column `indent`. -/
def indentation (indent : Nat) : Scan Unit := do
  let cursor ← get
  skip ((cursor.rest.take (indent - cursor.column)).takeWhile (· = ' ')).length

/-- Takes empty lines and the indentation of the next one. -/
def breaksFrom (indent : Nat) : (fuel : Nat) → Scan (List Char)
  | 0 => throw .malformed
  | fuel + 1 => do
    indentation indent
    match ← lineBreak with
    | [] => return []
    | cs => return cs ++ (← breaksFrom indent fuel)

/-- Takes empty lines and the indentation of the first line with text, and tells the deepest column. -/
def leadingFrom (deepest : Nat) : (fuel : Nat) → Scan (List Char × Nat)
  | 0 => throw .malformed
  | fuel + 1 => do
    let _ ← Scan.takeWhile (· = ' ')
    let deepest := max deepest (← get).column
    match ← lineBreak with
    | [] => return ([], deepest)
    | cs =>
      let (more, deepest) ← leadingFrom deepest fuel
      return (cs ++ more, deepest)

/-- The lines of a text, with the break of the last one and the empty lines behind it apart. -/
structure Lines where
  text : List Char
  lastBreak : List Char
  trailing : List Char

/-- Text starts here on the indentation. -/
def onLine (indent : Nat) : Scan Bool := do
  return (← get).column = indent && (← peek).isSome

/-- Takes the lines of a text after the empty ones `before`. A folded break between two lines that start
with text becomes a blank, or nothing if empty lines follow it. -/
def linesFrom (folded : Bool) (indent : Nat) (before : List Char) : (fuel : Nat) → Scan Lines
  | 0 => throw .malformed
  | fuel + 1 => do
    if !(← onLine indent) then return ⟨[], [], before⟩
    let startsWithText := !(← peek).any isBlank
    let line ← Scan.takeWhile (!isBreak ·)
    let lastBreak ← lineBreak
    let empty ← breaksFrom indent (← bound)
    if !(← onLine indent) then return ⟨before ++ line, lastBreak, empty⟩
    let joint :=
      if folded && lastBreak = ['\n'] && startsWithText && !(← peek).any isBlank then
        if empty.isEmpty then [' '] else []
      else lastBreak
    let rest ← linesFrom folded indent empty fuel
    return { rest with text := before ++ line ++ joint ++ rest.text }

/-- Takes indented text; `floor` is the least column at which it may stand. -/
def token (folded : Bool) (floor : Nat) : Scan Token := do
  skip 1
  let (chomping, increment) ← header
  restOfLine
  let floor := max 1 floor
  let (indent, empty) ← match increment with
    | some n => do
      let indent := floor + n - 1
      pure (indent, ← breaksFrom indent (← bound))
    | none => do
      let (empty, deepest) ← leadingFrom 0 (← bound)
      pure (max floor deepest, empty)
  let lines ← linesFrom folded indent empty (← bound)
  let ending := match chomping with
    | .strip => []
    | .clip => lines.lastBreak
    | .keep => lines.lastBreak ++ lines.trailing
  return .scalar (String.ofList (lines.text ++ ending)) false

end Segmentation.Yaml.Block
