import Segmentation.Text.Markup

/-!
# What commands print

A command prints lines of markup, tables and trees. A terminal draws them, but for some whose markup it cannot
make sense of.
-/

namespace Segmentation.Console

/-- A labelled tree. -/
inductive Branch where
  | node (label : String) (children : List Branch)

/-- One thing that is printed. -/
inductive Printed where
  | line (markup : String)
  | table (title : String) (columns : List String) (rows : List (List String))
  | tree (root : Branch)

mutual

/-- The labels of a tree. -/
def Branch.labels : Branch → List String
  | .node label children => label :: labelsOf children

/-- The labels of some trees. -/
def labelsOf : List Branch → List String
  | [] => []
  | b :: bs => b.labels ++ labelsOf bs

end

/-- The texts with markup in what is printed. -/
def Printed.markups : Printed → List String
  | line markup => [markup]
  | table title columns rows => title :: (columns ++ rows.flatten)
  | tree root => root.labels

/-- What draws things that are printed. It depends on a library. -/
class Terminal where
  draws : Printed → Bool

instance : Terminal :=
  ⟨fun p => p.markups.all Text.Markup.isDrawable⟩

end Segmentation.Console
