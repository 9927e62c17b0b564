import Segmentation.Json
import Segmentation.Limits
import Segmentation.Number.Binary64.Text
import Segmentation.Number.Integer
import Segmentation.Text.Quoted
import Segmentation.Yaml.Scalar

/-!
# Writing YAML

Every item and entry stands on a line of its own. Text stands without quotes where it can, else between single
quotes, and between double quotes only if it holds characters that cannot be shown or blanks beside line breaks.
Long text is folded at single blanks.
-/

namespace Segmentation.Yaml

/-- What writes data as a document. It depends on a library, and it may fail. -/
class Writer where
  text : Json → Except WriteFault String

namespace Emitter

/-! ## The sheet that is written on -/

/-- What has been written, the last character first, and where the pen is. -/
structure Sheet where
  written : List Char
  column : Nat
  /-- A blank, a line break or nothing at all stands before the pen. -/
  afterBlank : Bool
  /-- Only blanks and signs that indent stand before the pen on its line. -/
  indenting : Bool

namespace Sheet

/-- An empty sheet. -/
def blank : Sheet := ⟨[], 0, true, true⟩

/-- Writes characters. -/
def put (cs : List Char) (s : Sheet) : Sheet :=
  { s with written := cs.reverse ++ s.written, column := s.column + cs.length }

/-- Ends the line. -/
def breakLine (c : Char) (s : Sheet) : Sheet :=
  ⟨c :: s.written, 0, true, true⟩

/-- Goes to a column, on a new line unless nothing stands on this one yet. -/
def indent (column : Nat) (s : Sheet) : Sheet :=
  let s := if !s.indenting || column < s.column || (s.column = column && !s.afterBlank) then s.breakLine '\n' else s
  if s.column < column then { s.put (List.replicate (column - s.column) ' ') with afterBlank := true } else s

/-- Writes a sign, after a blank if it needs one. -/
def sign (cs : List Char) (needsBlank : Bool) (s : Sheet) : Sheet :=
  { s.put (if s.afterBlank || !needsBlank then cs else ' ' :: cs) with afterBlank := false, indenting := false }

/-- Writes a sign that indents what follows it on the line. -/
def indentingSign (c : Char) (s : Sheet) : Sheet :=
  { s.sign [c] true with indenting := s.indenting }

end Sheet

/-! ## Styles of text -/

/-- A character that ends a line. -/
def isBreak (c : Char) : Bool :=
  c = '\n' || c = '\x85' || c = '\u2028' || c = '\u2029'

/-- A blank, a line break or the end of the text. -/
def endsWord : Option Char → Bool
  | none => true
  | some c => c = ' ' || c = '\x00' || c = '\t' || c = '\r' || isBreak c

/-- A character that must be escaped. -/
def isHidden (c : Char) : Bool :=
  let n := c.toNat
  !(c = '\n' || (0x20 ≤ n && n ≤ 0x7e) ||
    ((n = 0x85 || (0xa0 ≤ n && n ≤ 0xd7ff) || (0xe000 ≤ n && n ≤ 0xfffd) || (0x10000 ≤ n && n < 0x10ffff)) &&
      c ≠ '\ufeff'))

/-- A character at the start of text that means something else there. -/
def startsSign (c : Char) (next : Option Char) : Bool :=
  "#,[]\x7b\x7d&*!|>'\"%@\x60".toList.contains c || (c = '?' || c = ':' || c = '-') && endsWord next

/-- Signs inside text that mean something else there: a colon before a blank, a hash behind one. -/
def hasSign (afterBlank : Bool) : List Char → Bool
  | [] => false
  | c :: cs => (c = ':' && endsWord cs.head?) || (c = '#' && afterBlank) || hasSign (endsWord (some c)) cs

/-- Neighbours of the given kinds stand somewhere in the text. -/
def hasPair (first second : Char → Bool) : List Char → Bool
  | c :: d :: cs => (first c && second d) || hasPair first second (d :: cs)
  | _ => false

/-- A blank. -/
def isBlank (c : Char) : Bool :=
  c = ' '

/-- How text is written. -/
inductive Style where
  | plain
  | single
  | double
deriving DecidableEq

/-- The text means nothing else without quotes, beside what it could stand for as a whole. -/
def isBare (cs : List Char) : Bool :=
  match cs with
  | [] => true
  | c :: rest =>
    !(startsSign c rest.head? || hasSign (endsWord (some c)) rest || "---".toList.isPrefixOf cs ||
      "...".toList.isPrefixOf cs || cs.any isBreak || isBlank c || cs.getLast?.any isBlank)

/-- The style for text. -/
def styleOf (s : String) : Style :=
  let cs := s.toList
  if cs.any isHidden || hasPair isBlank isBreak cs then .double
  else if hasPair isBreak isBlank cs then .double
  else if isBare cs && Scalar.tagOf s = .text then .plain
  else .single

/-! ## Text -/

/-- The column behind which lines are folded. -/
def width : Nat := 80

/-- Where further lines of a text start, and whether long lines are folded at all. -/
structure Margin where
  left : Nat
  folds : Bool

/-- Writes the gap between two pieces of text: line breaks with one more before a line feed, or blanks. A single
blank is a line's end where the line is long; `inside` tells that there is text on both sides. -/
def putGap (m : Margin) (inside : Bool) (gap : List Char) (s : Sheet) : Sheet :=
  match gap with
  | [] => s
  | c :: _ =>
    if isBreak c then
      (gap.foldl (fun s d => s.breakLine d) (if c = '\n' then s.breakLine '\n' else s)).indent m.left
    else if m.folds && inside && gap.length = 1 && width < s.column then s.indent m.left
    else s.put gap

/-- Writes text behind the gap `gap`. `inQuotes` tells whether it stands between single quotes, and `started` whether
some of it stands before the gap. -/
def putText (inQuotes : Bool) (m : Margin) (started : Bool) (gap : List Char) : List Char → Sheet → Sheet
  | [], s => putGap m false gap s
  | c :: cs, s =>
    if isBlank c || isBreak c then
      if gap.all (isBreak · = isBreak c) then putText inQuotes m started (gap ++ [c]) cs s
      else putText inQuotes m true [c] cs (putGap m started gap s)
    else
      putText inQuotes m true [] cs
        ((putGap m started gap s).put (if inQuotes && c = '\'' then [c, c] else [c]))

/-- The hexadecimal digits of a number in capitals. -/
def hexDigits (count n : Nat) : List Char :=
  (Text.Quoted.hexDigits count n).map Char.toUpper

/-- The letters that stand for characters behind a backslash. -/
def letters : List (Char × Char) :=
  [('\x00', '0'), ('\x07', 'a'), ('\x08', 'b'), ('\t', 't'), ('\n', 'n'), ('\x0b', 'v'), ('\x0c', 'f'), ('\r', 'r'),
    ('\x1b', 'e'), ('"', '"'), ('\\', '\\'), ('\x85', 'N'), ('\u2028', 'L'), ('\u2029', 'P')]

/-- The escape of a character between double quotes, if it needs one. -/
def escape? (c : Char) : Option (List Char) :=
  let n := c.toNat
  match List.lookup c letters with
  | some d => some ['\\', d]
  | none =>
    if (0x20 ≤ n && n ≤ 0x7e) || (0xa0 ≤ n && n ≤ 0xd7ff) || (0xe000 ≤ n && n ≤ 0xfffd && n ≠ 0xfeff) then none
    else if n ≤ 0xff then some ('\\' :: 'x' :: hexDigits 2 n)
    else if n ≤ 0xffff then some ('\\' :: 'u' :: hexDigits 4 n)
    else some ('\\' :: 'U' :: hexDigits 8 n)

/-- Ends a line between double quotes; a blank that comes next is kept by a backslash. -/
def fold (m : Margin) (next : Option Char) (s : Sheet) : Sheet :=
  let s := { (s.put ['\\']).indent m.left with afterBlank := false, indenting := false }
  if next = some ' ' then s.put ['\\'] else s

/-- Writes text between double quotes. Lines are folded before blanks and after escapes, but not at the ends of the
text. `started` tells that some of the text has been written, and `escaped` that this ended in an escape. -/
def putEscaped (m : Margin) (started escaped : Bool) : List Char → Sheet → Sheet
  | [], s => s
  | c :: cs, s =>
    let inside := m.folds && started && !cs.isEmpty
    match escape? c with
    | some e =>
      let s := s.put e
      putEscaped m true true cs (if inside && width + 1 < s.column then fold m cs.head? s else s)
    | none =>
      let s := if inside && (c = ' ' || escaped) && width < s.column then fold m (some c) s else s
      putEscaped m true false cs (s.put [c])

/-- Writes text in its style. -/
def putScalar (m : Margin) (text : String) (s : Sheet) : Sheet :=
  match styleOf text with
  | .plain => putText false m false [] text.toList (s.sign [] true)
  | .single => (putText true m false [] text.toList (s.sign ['\''] true)).sign ['\''] false
  | .double => (putEscaped m false false text.toList (s.sign ['"'] true)).sign ['"'] false

/-! ## Data -/

/-- The width of a step to the right. -/
def step : Nat := 2

/-- The key is short enough and on one line, so that it needs no sign of its own. -/
def isSimpleKey (key : String) : Bool :=
  !key.isEmpty && key.length < 123 && !key.toList.any isBreak

mutual

/-- Writes a value behind the sign that announces it. What is nested in it starts at `column`; `underKey` tells that
it is the value of a key. -/
def putValue (column : Nat) (underKey : Bool) : Json → Sheet → Sheet
  | .null, s => s.sign "null".toList true
  | .bool b, s => s.sign (if b then "true" else "false").toList true
  | .int n, s => s.sign (Integer.digits n) true
  | .float x, s => s.sign (x.textList .yaml) true
  | .text t, s => putScalar ⟨column + step, true⟩ t s
  | .array [], s => (s.sign ['['] true).sign [']'] false
  | .array (j :: js), s =>
    -- The items of a key's sequence stand under the key itself.
    putItems (if underKey && !s.indenting then column else column + step) (j :: js) s
  | .object [], s => (s.sign ['\x7b'] true).sign ['\x7d'] false
  | .object (m :: ms), s => putMembers (column + step) (m :: ms) s

/-- Writes the items of a sequence at a column. -/
def putItems (column : Nat) : List Json → Sheet → Sheet
  | [], s => s
  | j :: js, s => putItems column js (putValue column false j ((s.indent column).indentingSign '-'))

/-- Writes the entries of a mapping at a column. -/
def putMembers (column : Nat) : List (String × Json) → Sheet → Sheet
  | [], s => s
  | (k, j) :: ms, s =>
    let s := s.indent column
    let s :=
      if isSimpleKey k then (putScalar ⟨column + step, false⟩ k s).sign [':'] false
      else ((putScalar ⟨column + step, true⟩ k (s.indentingSign '?')).indent column).indentingSign ':'
    putMembers column ms (putValue column true j s)

end

/-- Writes a whole document. A collection starts at the left, and a single value without quotes is closed by dots. -/
def putDocument (j : Json) (s : Sheet) : Sheet :=
  match j with
  | .array (j :: js) => (putItems 0 (j :: js) s).indent 0
  | .object (m :: ms) => (putMembers 0 (m :: ms) s).indent 0
  | .text t =>
    let s := (putScalar ⟨step, true⟩ t s).indent 0
    if styleOf t = .plain then (s.put "...".toList).breakLine '\n' else s
  | .array [] | .object [] => (putValue 0 false j s).indent 0
  | j => (((putValue 0 false j s).indent 0).put "...".toList).breakLine '\n'

mutual

/-- All integers in the data can be written. -/
def hasTexts : Json → Bool
  | .int n => Integer.HasText n
  | .array js => allHaveTexts js
  | .object ms => membersHaveTexts ms
  | _ => true

/-- All integers in the items can be written. -/
def allHaveTexts : List Json → Bool
  | [] => true
  | j :: js => hasTexts j && allHaveTexts js

/-- All integers in the members can be written. -/
def membersHaveTexts : List (String × Json) → Bool
  | [] => true
  | (_, j) :: ms => hasTexts j && membersHaveTexts ms

end

/-- The characters of a document. -/
def chars (j : Json) : List Char :=
  (putDocument j .blank).written.reverse

/-- The text of a document. -/
def print (j : Json) : String :=
  String.ofList (chars j)

end Emitter

instance : Writer where
  text j := if Emitter.hasTexts j then .ok (Emitter.print j) else .error .integerTooLong

end Segmentation.Yaml
