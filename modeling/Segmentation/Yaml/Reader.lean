import Segmentation.Yaml.Node.Reader

/-!
# The value of a YAML document

Text stands for what its tag says, sequences become lists and mappings become mappings. A mapping may take
over the entries of others; its own ones come behind them and count more. Of several faults the one that is
nested least deeply is reported, and of those the first.
-/

namespace Segmentation.Value

/-- An integer as a number; truth values count as one and zero. -/
def wholeNumber? : Value → Option Int
  | bool b => some (if b then 1 else 0)
  | int n => some n
  | float x => if x.isIntegral then some x.truncate else none
  | _ => none

/-- Two values are the same as keys of a mapping. Numbers are the same if their values are equal, whatever
their kinds, and datetimes if they are the same moment. -/
def sameKey (a b : Value) : Bool :=
  match a.wholeNumber?, b.wholeNumber? with
  | some n, some m => n = m
  | _, _ =>
    match a, b with
    | null, null => true
    | float x, float y => x.sameValue y
    | text s, text t => s = t
    | bytes xs, bytes ys => xs = ys
    | date d, date e => d = e
    | datetime d, datetime e => d.sameMoment e
    | _, _ => false

/-- Puts a value under a key. A key that is there already keeps its place and its own form. -/
def setEntry (entries : List (Value × Value)) (key v : Value) : List (Value × Value) :=
  if entries.any fun (k, _) => k.sameKey key then
    entries.map fun (k, old) => if k.sameKey key then (k, v) else (k, old)
  else entries ++ [(key, v)]

/-- The value can be a key of a mapping. -/
def isKey : Value → Bool
  | collection .list _ | collection .set _ | mapping _ | record _ => false
  | _ => true

end Segmentation.Value

namespace Segmentation.Yaml

/-- A value, or a fault and how deeply it is nested. -/
abbrev Outcome := Except (Nat × Fault)

namespace Outcome

/-- Both results; of two faults the one nested less deeply, or else the first. -/
def both {α β : Type} (a : Outcome α) (b : Outcome β) : Outcome (α × β) :=
  match a, b with
  | .ok x, .ok y => .ok (x, y)
  | .error f, .ok _ => .error f
  | .ok _, .error f => .error f
  | .error f, .error g => .error (if g.1 < f.1 then g else f)

/-- All results in order. -/
def all {α β : Type} (f : α → Outcome β) : List α → Outcome (List β)
  | [] => .ok []
  | a :: as => (both (f a) (all f as)).map fun (b, bs) => b :: bs

end Outcome

namespace Node

/-- The entries of a mapping with those that it takes over from others before its own. Of several others
the first counts most. -/
def merged : (fuel : Nat) → List (Node × Node) → Option (List (Node × Node))
  | 0, _ => none
  | fuel + 1, entries => do
    let taken ← (entries.filter (·.1.tag = .merge)).mapM fun (_, value) =>
      match value with
      | mapping _ es => merged fuel es
      | sequence _ items => do
        let parts ← items.mapM fun
          | mapping _ es => merged fuel es
          | _ => none
        return parts.reverse.flatten
      | scalar .. => none
    return taken.flatten ++ entries.filter (·.1.tag ≠ .merge)

/-- A key as it is read within a mapping, where it is plain text even if elsewhere it would be special. -/
def asKey : Node → Node
  | scalar .default text => scalar .text text
  | n => n

/-- The text that a node stands for as a whole: its own, or the one that a mapping holds as its default. -/
def text? : (fuel : Nat) → Node → Option String
  | 0, _ => none
  | fuel + 1, n =>
    match n with
    | scalar _ text => some text
    | sequence .. => none
    | mapping _ entries => (entries.find? (·.1.tag = .default)).bind fun (_, value) => text? fuel value

/-- A key, which must not be a collection. -/
def readKey (depth : Nat) (key : Outcome Value) : Outcome Value :=
  match key with
  | .ok v => if v.isKey then .ok v else .error (depth, .malformed)
  | .error f => .error (if f.1 ≤ depth then f else (depth, .malformed))

/-- The value of a node. The content of a collection is nested one step deeper than the collection. -/
def value (depth : Nat) : (fuel : Nat) → Node → Outcome Value
  | 0, _ => .error (depth, .malformed)
  | fuel + 1, n =>
    let inner := value (depth + 1) fuel
    let entry (e : Node × Node) : Outcome (Value × Value) :=
      .both (readKey (depth + 1) (inner e.1.asKey)) (inner e.2)
    let entries (es : List (Node × Node)) : Outcome (List (Value × Value)) :=
      match merged (fuel + 1) es with
      | none => .error (depth + 1, .malformed)
      | some es =>
        (Outcome.all entry es).map fun read => read.foldl (fun done e => Value.setEntry done e.1 e.2) []
    let pair (item : Node) : Outcome Value :=
      match item with
      | mapping _ [(k, v)] =>
        (Outcome.both (inner k) (inner v)).map fun (k, v) => .collection .tuple [k, v]
      | _ => .error (depth + 1, .malformed)
    match n.tag, n with
    | .sequence, sequence _ items => (Outcome.all inner items).map (.collection .list)
    | .orderedMap, sequence _ items | .pairs, sequence _ items =>
      (Outcome.all pair items).map (.collection .list)
    | .mapping, mapping _ es => (entries es).map .mapping
    | .set, mapping _ es => (entries es).map fun read => .collection .set (read.map (·.1))
    | .sequence, _ | .orderedMap, _ | .pairs, _ | .mapping, _ | .set, _ => .error (depth + 1, .malformed)
    | tag, n =>
      match n.text? (fuel + 1) with
      | some text => (Scalar.read tag text).mapError (depth, ·)
      | none => .error (depth, .malformed)

end Node

/-- The value of the document that a text holds. -/
def ofText (s : String) : Except Fault Value := do
  let n ← Node.ofText s
  (n.value 0 (n.depth + 1)).mapError (·.2)

end Segmentation.Yaml
