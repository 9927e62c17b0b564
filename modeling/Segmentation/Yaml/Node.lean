import Segmentation.Yaml.Token

/-!
# Nodes of a YAML document

A document is a node: text, a sequence of nodes, or a mapping from nodes to nodes. The tag of a node says
what it stands for. Aliases have been replaced by the nodes that they name.
-/

namespace Segmentation.Yaml

/-- What a node stands for. -/
inductive Tag where
  | null
  | bool
  | int
  | float
  | binary
  | timestamp
  | text
  | sequence
  | mapping
  | set
  | orderedMap
  | pairs
  /-- The key under which a mapping takes over the entries of others. -/
  | merge
  /-- The key under which a mapping holds the value that stands for it as a whole. -/
  | default
  /-- Any other tag; such a node stands for nothing. -/
  | unknown
deriving DecidableEq

/-- The start of all tags with a meaning. -/
def Tag.standard : String := "tag:yaml.org,2002:"

/-- The meaning of a tag in full. -/
def Tag.ofName (name : String) : Tag :=
  ((List.lookup name
    ([("null", Tag.null), ("bool", .bool), ("int", .int), ("float", .float), ("binary", .binary),
      ("timestamp", .timestamp), ("str", .text), ("seq", .sequence), ("map", .mapping), ("set", .set),
      ("omap", .orderedMap), ("pairs", .pairs), ("merge", .merge), ("value", .default)].map
        fun (ending, tag) => (standard ++ ending, tag)))).getD .unknown

/-- A node with its tag. -/
inductive Node where
  | scalar (tag : Tag) (text : String)
  | sequence (tag : Tag) (items : List Node)
  | mapping (tag : Tag) (entries : List (Node × Node))

namespace Node

instance : Inhabited Node := ⟨scalar .null ""⟩

/-- The tag of a node. -/
def tag : Node → Tag
  | scalar tag _ => tag
  | sequence tag _ => tag
  | mapping tag _ => tag

mutual

/-- How many nodes lie inside one another. -/
def depth : Node → Nat
  | scalar .. => 1
  | sequence _ items => depths items + 1
  | mapping _ entries => entryDepths entries + 1

/-- The greatest depth of some nodes. -/
def depths : List Node → Nat
  | [] => 0
  | n :: ns => max (depth n) (depths ns)

/-- The greatest depth of some entries. -/
def entryDepths : List (Node × Node) → Nat
  | [] => 0
  | (k, v) :: es => max (max (depth k) (depth v)) (entryDepths es)

end

end Node

end Segmentation.Yaml
