/-!
# Problems of data that should fit a schema

A problem tells where in the data something does not fit and what. All fields of a structure are checked
and all problems are kept, in field order. Rules about a structure as a whole are checked last, and only
if its fields fit.
-/

namespace Segmentation

/-- A rule about a structure as a whole that data breaks. -/
inductive BrokenRule where
  | selectWithoutOptions (key : String)
  | optionsWithoutSelect (key : String)
  | noFields
  | duplicateKey (key : String)
  | noOperators (type : String)
  | staticWithRules (name : String)
  | dynamicWithMembers (name : String)
deriving DecidableEq

/-- The rule in words. -/
def BrokenRule.message : BrokenRule → String
  | selectWithoutOptions key => "Select field '" ++ key ++ "' needs at least one option"
  | optionsWithoutSelect key => "Only select fields take options (field '" ++ key ++ "')"
  | noFields => "A catalogue needs at least one field"
  | duplicateKey key => "Duplicate field key '" ++ key ++ "'"
  | noOperators type => "No operators defined for type '" ++ type ++ "'"
  | staticWithRules name => "Static segment '" ++ name ++ "' cannot have rules"
  | dynamicWithMembers name => "Dynamic segment '" ++ name ++ "' cannot list members"

/-- What does not fit at a place of the data. -/
inductive Misfit where
  | missing
  | notAStructure
  | notText
  | notAName
  | notATuple
  | notAList
  | notAMapping
  | emptyText
  | notAnInteger
  | notIntegerText
  | fractionalInteger
  | infiniteInteger
  | tooSmall
  | notATime
  | notTimeText
  | timeOutOfRange
  | notAPath
  | noAlternative
  | integerTooLong
  | nestedTooDeep
  | notJson
  | notExpected
  | broken (rule : BrokenRule)
deriving DecidableEq

/-- The short name by which a kind of misfit is reported. -/
def Misfit.name : Misfit → String
  | missing => "missing"
  | notAStructure => "model_type"
  | notText => "string_type"
  | notAName => "enum"
  | notATuple => "tuple_type"
  | notAList => "list_type"
  | notAMapping => "dict_type"
  | emptyText => "string_too_short"
  | notAnInteger => "int_type"
  | notIntegerText => "int_parsing"
  | fractionalInteger => "int_from_float"
  | infiniteInteger => "finite_number"
  | tooSmall => "greater_than_equal"
  | notATime => "datetime_type"
  | notTimeText => "datetime_from_date_parsing"
  | timeOutOfRange => "datetime_parsing"
  | notAPath => "path_type"
  | noAlternative => "union"
  | integerTooLong => "value_error"
  | nestedTooDeep => "recursion_loop"
  | notJson => "json_invalid"
  | notExpected => "extra_forbidden"
  | broken _ => "value_error"

/-- A misfit at a place; the place is the path of keys and indexes that leads there. -/
structure Problem where
  place : List String
  misfit : Misfit
deriving DecidableEq

namespace Problem

/-- The path that leads to the problem, joined by slashes. -/
def location (p : Problem) : String :=
  "/".intercalate p.place

/-- The words for a broken rule, or for an integer that has no text; other misfits have none of their own. -/
def message? (p : Problem) : Option String :=
  match p.misfit with
  | .broken rule => some ("Value error, " ++ rule.message)
  | .integerTooLong =>
    some ("Value error, Exceeds the limit (4300 digits) for integer string conversion; " ++
      "use sys.set_int_max_str_digits() to increase the limit")
  | _ => none

end Problem

/-- Data that fits, or the problems that keep it from fitting. -/
abbrev Checked (α : Type) := Except (List Problem) α

namespace Checked

/-- A single problem at this very place. -/
def misfit {α : Type} (m : Misfit) : Checked α :=
  .error [⟨[], m⟩]

/-- Problems found inside a part are placed under its name. -/
def under {α : Type} (part : String) : Checked α → Checked α
  | .ok a => .ok a
  | .error ps => .error (ps.map fun p => { p with place := part :: p.place })

/-- Both parts must fit; the problems of both are kept. -/
def both {α β : Type} : Checked α → Checked β → Checked (α × β)
  | .ok a, .ok b => .ok (a, b)
  | .ok _, .error qs => .error qs
  | .error ps, .ok _ => .error ps
  | .error ps, .error qs => .error (ps ++ qs)

/-- All members must fit; the problems of all are kept. -/
def all {α : Type} : List (Checked α) → Checked (List α)
  | [] => .ok []
  | x :: xs => (both x (all xs)).map fun (a, as) => a :: as

/-- All members must fit; problems are placed under the index of the member, counted from `start`. -/
def indexed {α : Type} (start : Nat) : List (Checked α) → Checked (List α)
  | [] => .ok []
  | x :: xs => (both (x.under (toString start)) (indexed (start + 1) xs)).map fun (a, as) => a :: as

end Checked

end Segmentation
