import Segmentation.Schema.Problem
import Segmentation.Value

/-!
# Checking values against a schema

The building blocks of schemas: text, names out of a fixed set, sequences, and structures that are given as
mappings with text keys. Keys that a structure does not know are ignored.
-/

namespace Segmentation.Schema

/-- Text; bytes are taken as text in UTF-8. -/
def text : Value → Checked String
  | .text s => .ok s
  | .bytes bs =>
    match String.fromUTF8? ⟨bs.toArray⟩ with
    | some s => .ok s
    | none => .misfit .notText
  | _ => .misfit .notText

/-- Text with at least one character. -/
def nonEmptyText (v : Value) : Checked String := do
  let s ← text v
  if s = "" then .misfit .emptyText else .ok s

/-- A name for which `named?` knows a meaning. -/
def name {α : Type} (named? : String → Option α) (v : Value) : Checked α :=
  match text v with
  | .ok s =>
    match named? s with
    | some a => .ok a
    | none => .misfit .notAName
  | .error _ => .misfit .notAName

/-- A sequence of members of one kind; `otherwise` is reported for what is no sequence. -/
def sequence {α : Type} (otherwise : Misfit) (member : Value → Checked α) : Value → Checked (List α)
  | .collection _ items => .indexed 0 (items.map member)
  | _ => .misfit otherwise

/-- Nothing, or a value of the kind. -/
def optional {α : Type} (kind : Value → Checked α) : Value → Checked (Option α)
  | .null => .ok none
  | v => (kind v).map some

/-- The entries of a mapping that stands for a structure. -/
def entries : Value → Checked (List (Value × Value))
  | .mapping es => .ok es
  | _ => .misfit .notAStructure

/-- An entry that must be there. -/
def required {α : Type} (es : List (Value × Value)) (key : String) (kind : Value → Checked α) :
    Checked α :=
  Checked.under key (match Value.valueUnder? es key with
    | some v => kind v
    | none => .misfit .missing)

/-- An entry that may be missing and has a value then. -/
def withDefault {α : Type} (es : List (Value × Value)) (key : String) (default : α)
    (kind : Value → Checked α) : Checked α :=
  match Value.valueUnder? es key with
  | some v => Checked.under key (kind v)
  | none => .ok default

/-- A mapping whose keys and values are checked one entry after the other. Problems of a key are placed
under the key and a mark for keys. -/
def table {α β : Type} (key : Value → Checked α) (keyText : Value → String)
    (value : Value → Checked β) : Value → Checked (List (α × β))
  | .mapping es => .all (es.map fun (k, v) =>
      Checked.under (keyText k) (.both (.under "[key]" (key k)) (value v)))
  | _ => .misfit .notAMapping

/-- A structure that satisfies a rule, or else the broken rule at its place. -/
def obeying {α : Type} : Except BrokenRule α → Checked α
  | .ok a => .ok a
  | .error rule => .misfit (.broken rule)

end Segmentation.Schema
