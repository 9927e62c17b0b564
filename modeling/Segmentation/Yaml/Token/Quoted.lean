import Segmentation.Text.Numeral
import Segmentation.Yaml.Token

/-!
# Quoted text

Between single quotes only the quote itself is special, and is written twice. Between double quotes a
backslash escapes. In both, a line break with the blanks around it counts as one blank, and each further
break as a line feed.
-/

namespace Segmentation.Yaml.Quoted

open Scan

/-- The character that a letter after a backslash stands for. -/
def escaped? (c : Char) : Option Char :=
  (List.lookup c
    [('0', '\x00'), ('a', '\x07'), ('b', '\x08'), ('t', '\t'), ('\t', '\t'), ('n', '\n'), ('v', '\x0b'),
      ('f', '\x0c'), ('r', '\r'), ('e', '\x1b'), (' ', ' '), ('"', '"'), ('\\', '\\'), ('/', '/'),
      ('N', '\x85'), ('_', '\xa0'), ('L', '\u2028'), ('P', '\u2029')])

/-- How many hexadecimal digits follow a letter after a backslash. -/
def codeWidth? (c : Char) : Option Nat :=
  if c = 'x' then some 2 else if c = 'u' then some 4 else if c = 'U' then some 8 else none

/-- Takes exactly `n` hexadecimal digits. -/
def hexNumber (n : Nat) : Scan Nat := do
  let digits := (← get).rest.take n
  guard (digits.length = n)
  match Text.ofHex? 0 digits with
  | some code => skip n; return code
  | none => throw .malformed

/-- The character with a number. A number in the gap for the halves of pairs stands for none by itself. -/
def charOfCode (code : Nat) : Scan Char := do
  if code < 0x110000 then return if 0xd800 ≤ code ∧ code < 0xe000 then '\ufffd' else Char.ofNat code
  else if code < 0x80000000 then throw .unreadable
  else throw .tooLarge

/-- Takes a character written by its number; two halves of a pair are one character. -/
def codedChar (width : Nat) : Scan Char := do
  let high ← hexNumber width
  if 0xd800 ≤ high ∧ high < 0xdc00 then
    match (← get).rest with
    | '\\' :: 'u' :: a :: b :: c :: d :: _ =>
      match Text.ofHex? 0 [a, b, c, d] with
      | some low =>
        if 0xdc00 ≤ low ∧ low < 0xe000 then
          skip 6
          return Char.ofNat (0x10000 + (high - 0xd800) * 0x400 + (low - 0xdc00))
        else charOfCode high
      | none => charOfCode high
    | _ => charOfCode high
  else charOfCode high

/-- Takes the breaks and blanks before the text of a further line. -/
def breaksFrom : (fuel : Nat) → Scan (List Char)
  | 0 => throw .malformed
  | fuel + 1 => do
    guard (!(← atDocumentMark))
    let _ ← Scan.takeWhile isBlank
    match ← lineBreak with
    | [] => return []
    | cs => return cs ++ (← breaksFrom fuel)

/-- Takes blanks, or a line break with the blanks around it. -/
def gap : Scan (List Char) := do
  let blanks ← Scan.takeWhile isBlank
  match ← lineBreak with
  | [] => return blanks
  | first =>
    let further ← breaksFrom (← bound)
    if first ≠ ['\n'] then return first ++ further
    else if further.isEmpty then return [' ']
    else return further

/-- Takes an escape, whose backslash has been taken. -/
def escape : Scan (List Char) := do
  match ← peek with
  | none => throw .malformed
  | some c =>
    match escaped? c, codeWidth? c with
    | some e, _ => skip 1; return [e]
    | none, some width => skip 1; return [← codedChar width]
    | none, none =>
      guard (isBreak c)
      let _ ← lineBreak
      breaksFrom (← bound)

/-- A character that may end a run of ordinary ones. -/
def isSpecial (c : Char) : Bool :=
  c = '\'' || c = '"' || c = '\\' || isBlank c || isBreak c

/-- Takes text up to its closing quote. -/
def textFrom (quote : Char) : (fuel : Nat) → Scan (List Char)
  | 0 => throw .malformed
  | fuel + 1 => do
    let run ← Scan.takeWhile (!isSpecial ·)
    match ← peek with
    | none => throw .malformed
    | some c =>
      if c = quote then
        skip 1
        if quote = '\'' && (← peek) = some '\'' then
          skip 1
          return run ++ c :: (← textFrom quote fuel)
        else return run
      else
        let part ←
          if isBlank c || isBreak c then gap
          else if quote = '"' && c = '\\' then do skip 1; escape
          else do skip 1; pure [c]
        return run ++ part ++ (← textFrom quote fuel)

/-- Takes quoted text. -/
def token (quote : Char) : Scan Token := do
  skip 1
  return .scalar (String.ofList (← textFrom quote (← bound))) false

end Segmentation.Yaml.Quoted
