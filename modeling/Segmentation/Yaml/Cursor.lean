/-!
# Places in a YAML text

A cursor is what is left of a text together with the line and column where it starts. Reading moves the
cursor forward and may end in a fault.
-/

namespace Segmentation.Yaml

/-- Why text is no YAML document. -/
inductive Fault where
  /-- The text is against the grammar, or a node is of a kind that its tag does not allow. -/
  | malformed
  /-- The text of a number, a date or a character stands for none. -/
  | unreadable
  /-- A number is larger than every floating-point number, or the number of a character is too large. -/
  | tooLarge
  /-- A number is left without any text. -/
  | blankNumber
  /-- A tag promises a truth value, but the text names none. -/
  | unknownTruthValue
  /-- A tag promises a time, but the text has another form. -/
  | unknownTime
deriving DecidableEq, Repr

/-- A character that ends a line. -/
def isBreak (c : Char) : Bool :=
  c = '\n' || c = '\r' || c = '\x85' || c = '\u2028' || c = '\u2029'

/-- A blank or a tab. -/
def isBlank (c : Char) : Bool :=
  c = ' ' || c = '\t'

/-- The end of a line or of the text. -/
def endsLine : Option Char → Bool
  | none => true
  | some c => isBreak c

/-- The end of a word: a blank, or the end of a line or of the text. -/
def endsWord : Option Char → Bool
  | none => true
  | some c => isBlank c || isBreak c

/-- A character that a document may hold as it is. -/
def isAllowed (c : Char) : Bool :=
  let n := c.toNat
  c = '\t' || c = '\n' || c = '\r' || (0x20 ≤ n && n ≤ 0x7e) || n = 0x85 || (0xa0 ≤ n && n < 0xfffe) ||
    0x10000 ≤ n

/-- A character of an anchor's name. -/
def isNameChar (c : Char) : Bool :=
  c.isAlphanum || c = '-' || c = '_'

/-- What is left of a text, and where that starts. -/
structure Cursor where
  rest : List Char
  line : Nat
  column : Nat
  index : Nat

namespace Cursor

/-- The start of a text. -/
def start (cs : List Char) : Cursor := ⟨cs, 0, 0, 0⟩

/-- The cursor behind the next character. A break starts a line, a carriage return before a line feed does
not, and a byte order mark has no width. -/
def advance (c : Cursor) : Cursor :=
  match c.rest with
  | [] => c
  | x :: rest =>
    if isBreak x && !(x = '\r' && rest.head? = some '\n') then ⟨rest, c.line + 1, 0, c.index + 1⟩
    else ⟨rest, c.line, if x = '\ufeff' then c.column else c.column + 1, c.index + 1⟩

/-- The cursor behind the next `n` characters. -/
def advanceBy (n : Nat) (c : Cursor) : Cursor :=
  n.repeat advance c

end Cursor

/-- Reading that moves a cursor. -/
abbrev Scan := StateT Cursor (Except Fault)

namespace Scan

/-- The character `n` places ahead. -/
def peekAt (n : Nat) : Scan (Option Char) := do
  return (← get).rest[n]?

/-- The next character. -/
def peek : Scan (Option Char) :=
  peekAt 0

/-- Moves on by `n` characters. -/
def skip (n : Nat) : Scan Unit :=
  modify (·.advanceBy n)

/-- Takes the characters up to the first one outside the class `p`. -/
def takeWhile (p : Char → Bool) : Scan (List Char) := do
  let run := (← get).rest.takeWhile p
  skip run.length
  return run

/-- A bound on the steps that reading can still take. -/
def bound : Scan Nat := do
  return (← get).rest.length + 1

/-- Goes on only if the condition holds. -/
def guard (condition : Bool) : Scan Unit :=
  if condition then pure () else throw .malformed

/-- Takes a line break, if one comes next. The usual breaks all become a line feed. -/
def lineBreak : Scan (List Char) := do
  match (← get).rest with
  | '\r' :: '\n' :: _ => skip 2; return ['\n']
  | c :: _ =>
    if isBreak c then
      skip 1
      return [if c = '\u2028' || c = '\u2029' then c else '\n']
    else return []
  | [] => return []

/-- Three dashes or three dots come next, as a word. -/
def atDocumentMark : Scan Bool := do
  match (← get).rest with
  | a :: b :: c :: rest => return a = b && b = c && (a = '-' || a = '.') && endsWord rest.head?
  | _ => return false

/-- Takes blanks and a comment up to the end of the line, and the break. -/
def restOfLine : Scan Unit := do
  let _ ← takeWhile (· = ' ')
  if (← peek) = some '#' then
    let _ ← takeWhile (!isBreak ·)
  guard (endsLine (← peek))
  let _ ← lineBreak

end Scan

end Segmentation.Yaml
