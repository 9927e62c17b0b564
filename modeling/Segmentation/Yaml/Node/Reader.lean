import Segmentation.Yaml.Scalar
import Segmentation.Yaml.Token.Reader

/-!
# Reading nodes

A text holds at most one document. A node may carry an anchor, under which aliases find it from then on, and
a tag. Where a node may be missing, nothing is read as empty plain text.
-/

namespace Segmentation.Yaml.Node

/-- What is left of the tokens, what tag handles stand for, and the anchored nodes; an anchor whose node is
still being read names none. -/
structure Context where
  tokens : List Token
  handles : List (String × String)
  anchors : List (String × Option Node)

/-- Reading of nodes. -/
abbrev Reading := StateT Context (Except Fault)

/-- The handles that every document has. -/
def standardHandles : List (String × String) :=
  [("!", "!"), ("!!", Tag.standard)]

/-- The next token. -/
def next : Reading (Option Token) := do
  return (← get).tokens.head?

/-- Passes over the next token. -/
def drop : Reading Unit :=
  modify fun c => { c with tokens := c.tokens.tail }

/-- Passes over the next token if it is `t`. -/
def take (t : Token) : Reading Bool := do
  if (← next) = some t then
    drop
    return true
  else return false

/-- Passes over the next token, which must be `t`. -/
def expect (t : Token) : Reading Unit := do
  if !(← take t) then throw .malformed

/-- The next token is one of `ts`. -/
def atAny (ts : List Token) : Reading Bool := do
  return (← next).any (ts.contains ·)

/-- Nothing, where a node may stand. -/
def missing : Node := scalar .null ""

/-- The text of a tag in full; none for the tag that leaves the meaning open. -/
def tagName (handle : Option String) (suffix : String) : Reading (Option String) := do
  let name ← match handle with
    | none => pure suffix
    | some h =>
      match (← get).handles.lookup h with
      | some start => pure (start ++ suffix)
      | none => throw .malformed
  return if name = "!" then none else some name

/-- What may stand before the content of a node. `tag` is none without a tag, and `some none` for a tag
that leaves the meaning open. -/
structure Properties where
  anchor : Option String
  tag : Option (Option String)

/-- Takes an anchor and a tag, in any order. -/
def properties : Reading Properties := do
  let anchor : Reading (Option String) := do
    match ← next with
    | some (.anchor name) => drop; return some name
    | _ => return none
  let tag : Reading (Option (Option String)) := do
    match ← next with
    | some (.tag handle suffix) => drop; return some (← tagName handle suffix)
    | _ => return none
  match ← anchor with
  | some name => return ⟨some name, ← tag⟩
  | none =>
    match ← tag with
    | some t => return ⟨← anchor, some t⟩
    | none => return ⟨none, none⟩

/-- The tag of a collection. -/
def Properties.collectionTag (p : Properties) (usual : Tag) : Tag :=
  match p.tag with
  | some (some name) => .ofName name
  | _ => usual

/-- The tag of text. Plain text, and text whose tag leaves the meaning open, shows its meaning by its
form. -/
def Properties.textTag (p : Properties) (text : String) (plain : Bool) : Tag :=
  match p.tag with
  | some (some name) => .ofName name
  | some none => Scalar.tagOf text
  | none => if plain then Scalar.tagOf text else .text

/-- An anchored node is about to be read. No anchor may come twice. -/
def announce (p : Properties) : Reading Unit := do
  match p.anchor with
  | none => return
  | some name =>
    let c ← get
    if (c.anchors.lookup name).isSome then throw .malformed
    set { c with anchors := (name, none) :: c.anchors }

/-- An anchored node has been read. -/
def settle (p : Properties) (n : Node) : Reading Node := do
  match p.anchor with
  | none => return n
  | some name =>
    modify fun c => { c with anchors := (name, some n) :: c.anchors }
    return n

/-- The node that an alias names. -/
def aliased (name : String) : Reading Node := do
  match (← get).anchors.lookup name with
  | some (some n) => return n
  | _ => throw .malformed

/-- Where a node may stand: whether block collections are allowed, and whether the items of a sequence may
be indented no deeper than the key before them. -/
inductive Place where
  | flow
  | block
  | underKey
deriving DecidableEq

mutual

/-- Reads a node. -/
def read (place : Place) : (fuel : Nat) → Reading Node
  | 0 => throw .malformed
  | fuel + 1 => do
    if let some (.aliasTo name) ← next then
      drop
      return ← aliased name
    let p ← properties
    announce p
    let content ←
      match ← next with
      | some .blockEntry =>
        if place = .underKey then sequence (p.collectionTag .sequence) <$> looseItems fuel
        else if p.anchor.isSome || p.tag.isSome then pure (scalar (p.textTag "" true) "")
        else throw .malformed
      | some (.scalar text plain) => do
        drop
        pure (scalar (p.textTag text plain) text)
      | some .flowSequence => do
        drop
        sequence (p.collectionTag .sequence) <$> flowItems true fuel
      | some .flowMapping => do
        drop
        mapping (p.collectionTag .mapping) <$> flowEntries true fuel
      | some .blockSequence =>
        if place = .flow then throw .malformed
        drop
        sequence (p.collectionTag .sequence) <$> blockItems fuel
      | some .blockMapping =>
        if place = .flow then throw .malformed
        drop
        mapping (p.collectionTag .mapping) <$> blockEntries fuel
      | _ =>
        if p.anchor.isSome || p.tag.isSome then pure (scalar (p.textTag "" true) "")
        else throw .malformed
    settle p content

/-- Reads a node unless one of the tokens `ends` comes next. -/
def readUnless (place : Place) (ends : List Token) : (fuel : Nat) → Reading Node
  | 0 => throw .malformed
  | fuel + 1 => do
    if ← atAny ends then return missing
    read place fuel

/-- Reads the items of a block sequence up to its end. -/
def blockItems : (fuel : Nat) → Reading (List Node)
  | 0 => throw .malformed
  | fuel + 1 => do
    if ← take .blockEntry then
      let item ← readUnless .block [.blockEntry, .blockEnd] fuel
      return item :: (← blockItems fuel)
    else
      expect .blockEnd
      return []

/-- Reads the items of a sequence that is not indented. -/
def looseItems : (fuel : Nat) → Reading (List Node)
  | 0 => throw .malformed
  | fuel + 1 => do
    if ← take .blockEntry then
      let item ← readUnless .block [.blockEntry, .key, .value, .blockEnd] fuel
      return item :: (← looseItems fuel)
    else return []

/-- Reads the entries of a block mapping up to its end. -/
def blockEntries : (fuel : Nat) → Reading (List (Node × Node))
  | 0 => throw .malformed
  | fuel + 1 => do
    if ← take .blockEnd then return []
    let key ←
      if ← take .key then readUnless .underKey [.key, .value, .blockEnd] fuel
      else throw .malformed
    let value ←
      if ← take .value then readUnless .underKey [.key, .value, .blockEnd] fuel
      else pure missing
    return (key, value) :: (← blockEntries fuel)

/-- Reads the items between square brackets. An item with a key is a mapping of one entry. -/
def flowItems (first : Bool) : (fuel : Nat) → Reading (List Node)
  | 0 => throw .malformed
  | fuel + 1 => do
    if ← take .flowSequenceEnd then return []
    if !first then
      expect .flowEntry
      if ← take .flowSequenceEnd then return []
    let item ←
      if ← take .key then do
        let key ← readUnless .flow [.value, .flowEntry, .flowSequenceEnd] fuel
        let value ←
          if ← take .value then readUnless .flow [.flowEntry, .flowSequenceEnd] fuel
          else pure missing
        pure (mapping .mapping [(key, value)])
      else read .flow fuel
    return item :: (← flowItems false fuel)

/-- Reads the entries between braces. A node without a colon is a key without a value. -/
def flowEntries (first : Bool) : (fuel : Nat) → Reading (List (Node × Node))
  | 0 => throw .malformed
  | fuel + 1 => do
    if ← take .flowMappingEnd then return []
    if !first then
      expect .flowEntry
      if ← take .flowMappingEnd then return []
    let entry ←
      if ← take .key then do
        let key ← readUnless .flow [.value, .flowEntry, .flowMappingEnd] fuel
        let value ←
          if ← take .value then readUnless .flow [.flowEntry, .flowMappingEnd] fuel
          else pure missing
        pure (key, value)
      else do
        pure (← read .flow fuel, missing)
    return entry :: (← flowEntries false fuel)

end

/-- Takes the directives before a document. -/
def directivesFrom (versionSeen : Bool) : (fuel : Nat) → Reading Unit
  | 0 => throw .malformed
  | fuel + 1 => do
    match ← next with
    | some (.version major) =>
      if versionSeen || major ≠ 1 then throw .malformed
      drop
      directivesFrom true fuel
    | some (.tagHandle handle start) =>
      let c ← get
      if (c.handles.lookup handle).isSome then throw .malformed
      set { c with handles := (handle, start) :: c.handles }
      drop
      directivesFrom versionSeen fuel
    | some .otherDirective => drop; directivesFrom versionSeen fuel
    | _ => return

/-- The next token belongs to what stands before a document. -/
def startsDocument (t : Token) : Bool :=
  match t with
  | .version _ | .tagHandle _ _ | .otherDirective | .documentStart => true
  | _ => false

/-- Reads a document; nothing if there is none. -/
def document (fuel : Nat) : Reading Node := do
  match ← next with
  | none => return missing
  | some t =>
    let n ←
      if startsDocument t then do
        directivesFrom false fuel
        modify fun c => { c with handles := c.handles ++ standardHandles }
        expect .documentStart
        match ← next with
        | none => pure missing
        | some t => if startsDocument t || t = .documentEnd then pure missing else read .block fuel
      else do
        modify fun c => { c with handles := standardHandles }
        read .block fuel
    modify fun c => { c with tokens := c.tokens.dropWhile (· = .documentEnd) }
    match ← next with
    | none => return n
    | some _ => throw .malformed

/-- The node of the document that a text holds. -/
def ofText (s : String) : Except Fault Node := do
  let tokens ← Token.scan s.toList
  let (n, _) ← (document (3 * tokens.length + 3)).run ⟨tokens, [], []⟩
  return n

end Segmentation.Yaml.Node
