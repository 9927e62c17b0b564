/-!
# Limits of nesting

Data may be nested only so deep where it is read and written: the reader of JSON text counts arrays and
objects, and the schema of rule trees counts groups.
-/

namespace Segmentation

/-- How deep data may be nested. Something that is not nested at all is always let through. -/
class Limits where
  /-- The greatest number of arrays and objects that lie in each other in a JSON text; empty ones do not
  count. -/
  text : Nat
  /-- The greatest number of groups that lie in each other in data that a tree is read from. -/
  read : Nat
  /-- The greatest number of groups that lie in each other in a tree that is written. -/
  written : Nat
  read_pos : 0 < read
  written_pos : 0 < written

instance : Limits := ⟨200, 255, 255, by decide, by decide⟩

/-- Why data cannot be written. -/
inductive WriteFault where
  | nestedTooDeep
  | integerTooLong
deriving DecidableEq

end Segmentation
