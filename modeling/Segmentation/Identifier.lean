import Segmentation.Text.Quoted

/-!
# Identifiers of nodes and segments

New nodes and segments get identifiers that were never used before. They come from a supply that counts:
each number has a text of its own, in the form of a version 4 UUID.
-/

namespace Segmentation

/-- A source of identifiers: the number that the next one is made from. -/
structure IdSupply where
  next : Nat
deriving DecidableEq

namespace IdSupply

/-- The hexadecimal digits of a number, at least thirty of them. -/
def digits (n : Nat) : List Char :=
  let ds := Nat.toDigits 16 n
  List.replicate (30 - ds.length) '0' ++ ds

/-- The identifier of a number: its digits in five groups, with the marks of version 4. -/
def text (n : Nat) : String :=
  let ds := digits n
  let (rest, last) := (ds.take (ds.length - 12), ds.drop (ds.length - 12))
  let (rest, fourth) := (rest.take (rest.length - 3), rest.drop (rest.length - 3))
  let (rest, third) := (rest.take (rest.length - 3), rest.drop (rest.length - 3))
  let (first, second) := (rest.take (rest.length - 4), rest.drop (rest.length - 4))
  String.ofList (first ++ '-' :: second ++ '-' :: '4' :: third ++ '-' :: '8' :: fourth ++ '-' :: last)

/-- The next identifier. -/
def fresh (supply : IdSupply) : String × IdSupply :=
  (text supply.next, ⟨supply.next + 1⟩)

/-- Draws the next identifier from the supply that a computation carries along. -/
def draw : StateM IdSupply String :=
  fun supply => supply.fresh

end IdSupply

end Segmentation
