import Segmentation.Yaml.Cursor

/-!
# Tokens of YAML

The tokens say where collections begin and end, by brackets or by indentation, so that the grammar over
them needs no columns. The end of the text has no token.
-/

namespace Segmentation.Yaml

/-- A token. -/
inductive Token where
  | version (major : Nat)
  | tagHandle (handle start : String)
  | otherDirective
  | documentStart
  | documentEnd
  | blockSequence
  | blockMapping
  | blockEnd
  | flowSequence
  | flowSequenceEnd
  | flowMapping
  | flowMappingEnd
  | blockEntry
  | flowEntry
  | key
  | value
  | aliasTo (name : String)
  | anchor (name : String)
  | tag (handle : Option String) (suffix : String)
  | scalar (text : String) (plain : Bool)
deriving DecidableEq

end Segmentation.Yaml
