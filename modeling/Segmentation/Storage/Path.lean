import Segmentation.Text.Case
import Segmentation.Text.Search

/-!
# Paths of files

A path is a root, if it has one, and names. Empty names and single dots in its text say nothing and are
dropped; double dots stay. A path with a root leads to the same place from everywhere.
-/

namespace Segmentation

/-- A path. The root is empty, or one or two slashes. -/
structure Path where
  root : String
  names : List String
deriving DecidableEq

namespace Path

instance : Inhabited Path := ⟨⟨"", []⟩⟩

/-- The names between the slashes of a text. -/
def namesOf (s : String) : List String :=
  (Text.split s '/').filter fun name => name ≠ "" && name ≠ "."

/-- The path that a text writes. Exactly two slashes at its start are kept. -/
def ofText (s : String) : Path :=
  let slashes := (s.toList.takeWhile (· = '/')).length
  ⟨if slashes = 0 then "" else if slashes = 2 then "//" else "/", namesOf s⟩

/-- The text of a path; a path without root and names is a dot. -/
def text (p : Path) : String :=
  if p.root = "" && p.names.isEmpty then "." else p.root ++ Text.join "/" p.names

/-- The place that `other` leads to from `p`. -/
def join (p other : Path) : Path :=
  if other.root = "" then ⟨p.root, p.names ++ other.names⟩ else other

/-- The place that a text leads to from `p`. -/
def child (p : Path) (s : String) : Path :=
  p.join (ofText s)

/-- The path without its last name. -/
def parent (p : Path) : Path :=
  ⟨p.root, p.names.dropLast⟩

/-- The last name. -/
def name (p : Path) : String :=
  p.names.getLast?.getD ""

/-- The part of the last name from its last dot on; nothing if the name starts or ends with that dot. -/
def suffix (p : Path) : String :=
  let reversed := p.name.toList.reverse
  let ending := reversed.takeWhile (· ≠ '.')
  if ending.isEmpty || reversed.length ≤ ending.length + 1 then ""
  else String.ofList ('.' :: ending.reverse)

/-- The place that a path leads to from the directory `base`, with double dots followed to where they
lead. -/
def resolve (base p : Path) : Path :=
  let whole := base.join p
  ⟨whole.root, (whole.names.foldl (fun done name =>
    if name = ".." then done.tail else name :: done) []).reverse⟩

end Path

end Segmentation
