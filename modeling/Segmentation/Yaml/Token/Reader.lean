import Segmentation.Yaml.Token.Block
import Segmentation.Yaml.Token.Name
import Segmentation.Yaml.Token.Plain

/-!
# Reading tokens

Outside brackets, deeper indentation opens a block collection and shallower indentation closes one. A key
need not be marked: whatever may be a key is remembered, and the marks are put before it once its colon
shows that it is one. Such a key stands on one line and is at most 1024 characters long.
-/

namespace Segmentation.Yaml.Token

open Scan

/-- Something that will have been a key if a colon follows. A required one stands where a block mapping can
only go on with a key. -/
structure PendingKey where
  position : Nat
  required : Bool
  index : Nat
  line : Nat
  column : Nat

/-- What has been read. The columns of the open block collections stand in `indents`, the innermost first;
a possible key is kept for the present level of brackets and for each outer one. -/
structure Layout where
  tokens : Array Token
  indents : List Nat
  keyAllowed : Bool
  pending : Option PendingKey
  outer : List (Option PendingKey)

/-- Reading that builds up tokens. -/
abbrev Reading := StateT Layout Scan

namespace Layout

/-- Nothing has been read. -/
def start : Layout := ⟨#[], [], true, none, []⟩

/-- The place is inside brackets. -/
def inFlow (l : Layout) : Bool := !l.outer.isEmpty

/-- The least column of text that belongs to the innermost block collection. -/
def floor (l : Layout) : Nat :=
  match l.indents with
  | [] => 0
  | column :: _ => column + 1

/-- Adds a token. -/
def push (t : Token) (l : Layout) : Layout :=
  { l with tokens := l.tokens.push t }

/-- Closes the block collections that are indented by `floor` columns or more. -/
def close (floor : Nat) (l : Layout) : Layout :=
  let (closed, kept) := l.indents.span (floor ≤ ·)
  { l with tokens := l.tokens ++ closed.map fun _ => blockEnd, indents := kept }

/-- Opens a block collection at a column by a token at a position, unless one is open there. -/
def openBlock (column position : Nat) (t : Token) (l : Layout) : Layout :=
  if l.floor ≤ column then
    { l with indents := column :: l.indents, tokens := l.tokens.insertIdxIfInBounds position t }
  else l

end Layout

/-- Adds a token. -/
def emit (t : Token) : Reading Unit :=
  modify (·.push t)

/-- Says whether a key may stand next. -/
def allowKey (allowed : Bool) : Reading Unit :=
  modify fun l => { l with keyAllowed := allowed }

/-- Forgets the possible key of this level; a required one has lost its colon. -/
def forgetKey : Reading Unit := do
  let l ← get
  guard (!(l.pending.any (·.required)))
  set { l with pending := none }

/-- Remembers a possible key at this place, if one may stand here. -/
def rememberKey : Reading Unit := do
  let l ← get
  if l.keyAllowed then
    forgetKey
    let c ← getThe Cursor
    let required := !l.inFlow && l.indents.head? = some c.column
    modify fun l => { l with pending := some ⟨l.tokens.size, required, c.index, c.line, c.column⟩ }

/-- A possible key can still be one at this place. -/
def PendingKey.fresh (k : PendingKey) (c : Cursor) : Bool :=
  k.line = c.line && c.index - k.index ≤ 1024

/-- Forgets the possible keys that no longer can be one. -/
def forgetStale : Reading Unit := do
  let l ← get
  let c ← getThe Cursor
  let stale (k : PendingKey) : Bool := !k.fresh c
  guard ((l.pending :: l.outer).all fun k => !k.any fun k => stale k && k.required)
  let keep (k : Option PendingKey) : Option PendingKey := k.filter (!stale ·)
  set { l with pending := keep l.pending, outer := l.outer.map keep }

/-- Moves to the next token over blanks, comments and breaks. -/
def toNextFrom : (fuel : Nat) → Reading Unit
  | 0 => throw .malformed
  | fuel + 1 => do
    let _ ← (Scan.takeWhile (· = ' ') : Scan _)
    if (← (peek : Scan _)) = some '#' then
      let _ ← (Scan.takeWhile (!isBreak ·) : Scan _)
    match ← (lineBreak : Scan _) with
    | [] => return
    | _ =>
      if !(← get).inFlow then allowKey true
      toNextFrom fuel

/-- Takes a bracket that opens a collection, which may be a key. -/
def openFlow (t : Token) : Reading Unit := do
  rememberKey
  modify fun l => { l with pending := none, outer := l.pending :: l.outer }
  allowKey true
  (skip 1 : Scan _)
  emit t

/-- Takes a bracket that closes a collection. -/
def closeFlow (t : Token) : Reading Unit := do
  forgetKey
  match (← get).outer with
  | [] => throw .malformed
  | pending :: outer =>
    modify fun l => { l with pending, outer }
    allowKey false
    (skip 1 : Scan _)
    emit t

/-- Takes a comma. -/
def takeComma : Reading Unit := do
  allowKey true
  forgetKey
  (skip 1 : Scan _)
  emit flowEntry

/-- Opens a block collection at this column for a mark that may stand only where a key may. -/
def openHere (t : Token) : Reading Unit := do
  let l ← get
  if !l.inFlow then
    guard l.keyAllowed
    modify (·.openBlock (← getThe Cursor).column l.tokens.size t)

/-- Takes the dash before an item. -/
def takeDash : Reading Unit := do
  openHere blockSequence
  allowKey true
  forgetKey
  (skip 1 : Scan _)
  emit blockEntry

/-- Takes the mark before a key. -/
def takeKeyMark : Reading Unit := do
  openHere blockMapping
  allowKey (!(← get).inFlow)
  forgetKey
  (skip 1 : Scan _)
  emit key

/-- Takes the colon before a value. If there is a possible key, it is one. -/
def takeColon : Reading Unit := do
  let l ← get
  match l.pending with
  | some k =>
    modify fun l => { l with pending := none, tokens := l.tokens.insertIdxIfInBounds k.position key }
    if !l.inFlow then modify (·.openBlock k.column k.position blockMapping)
    allowKey false
  | none =>
    openHere blockMapping
    allowKey (!l.inFlow)
    forgetKey
  (skip 1 : Scan _)
  emit value

/-- Takes a token that may be a key. -/
def takeContent (read : Scan Token) : Reading Unit := do
  rememberKey
  allowKey false
  emit (← read)

/-- Takes plain text. A key may follow it on a new line. -/
def takePlain : Reading Unit := do
  rememberKey
  let l ← get
  let (t, lineEnded) ← (Plain.token l.inFlow l.floor : Scan _)
  allowKey lineEnded
  emit t

/-- Takes indented text. -/
def takeBlock (folded : Bool) : Reading Unit := do
  allowKey true
  forgetKey
  emit (← (Block.token folded (← get).floor : Scan _))

/-- Takes what stands outside of all collections. -/
def takeOutside (read : Scan Token) : Reading Unit := do
  modify (·.close 0)
  forgetKey
  allowKey false
  emit (← read)

/-- Takes a mark of three characters. -/
def documentMark (t : Token) : Scan Token := do
  skip 3
  return t

/-- A character that cannot start plain text by itself. -/
def isIndicator (c : Char) : Bool :=
  "-?:,[]\x7b\x7d#&*!|>'\"%@`".toList.contains c

/-- Plain text can start with `c` before `next`. -/
def startsPlain (inFlow : Bool) (c : Char) (next : Option Char) : Bool :=
  !(endsWord (some c) || isIndicator c) ||
    (!endsWord next && (c = '-' || (!inFlow && (c = '?' || c = ':'))))

/-- Takes the token that starts with `c`. -/
def takeAt (c : Char) : Reading Unit := do
  let column := (← getThe Cursor).column
  let next ← (peekAt 1 : Scan _)
  let mark ← (atDocumentMark : Scan _)
  let inFlow := (← get).inFlow
  if c = '%' && column = 0 then takeOutside Name.directive
  else if c = '-' && column = 0 && mark then takeOutside (documentMark documentStart)
  else if c = '.' && column = 0 && mark then takeOutside (documentMark documentEnd)
  else if c = '[' then openFlow flowSequence
  else if c = '\x7b' then openFlow flowMapping
  else if c = ']' then closeFlow flowSequenceEnd
  else if c = '\x7d' then closeFlow flowMappingEnd
  else if c = ',' then takeComma
  else if c = '-' && endsWord next then takeDash
  else if c = '?' && (inFlow || endsWord next) then takeKeyMark
  else if c = ':' && (inFlow || endsWord next) then takeColon
  else if c = '*' then takeContent do return aliasTo (← Name.name)
  else if c = '&' then takeContent do return anchor (← Name.name)
  else if c = '!' then takeContent Name.tag
  else if c = '|' && !inFlow then takeBlock false
  else if c = '>' && !inFlow then takeBlock true
  else if c = '\'' || c = '"' then takeContent (Quoted.token c)
  else if startsPlain inFlow c next then takePlain
  else throw .malformed

/-- Takes all tokens, at most `fuel`. -/
def allFrom : (fuel : Nat) → Reading Unit
  | 0 => throw .malformed
  | fuel + 1 => do
    toNextFrom (← (bound : Scan _))
    forgetStale
    if !(← get).inFlow then modify (·.close ((← getThe Cursor).column + 1))
    match ← (peek : Scan _) with
    | none =>
      modify (·.close 0)
      forgetKey
    | some c =>
      takeAt c
      allFrom fuel

/-- The tokens of a text. A byte order mark at its start is no part of it. -/
def scan (cs : List Char) : Except Fault (List Token) := do
  let cs := match cs with
    | '\ufeff' :: rest => rest
    | cs => cs
  if cs.all isAllowed then
    let ((_, layout), _) ← ((allFrom (cs.length + 1)).run Layout.start).run (Cursor.start cs)
    return layout.tokens.toList
  else throw .malformed

end Segmentation.Yaml.Token
