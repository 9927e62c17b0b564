/-!
# Field types and operators

A contact field has one of six types. A condition compares a field with one of 23 operators, each known by
a name; some have a second name from older segment editors.
-/

namespace Segmentation

/-- The declared type of a contact field. -/
inductive FieldType where
  | string
  | number
  | date
  | boolean
  | select
  | array
deriving DecidableEq, Repr

namespace FieldType

/-- All field types, in the order in which they are listed. -/
def all : List FieldType :=
  [string, number, date, boolean, select, array]

/-- The name of a field type. -/
def name : FieldType → String
  | string => "string"
  | number => "number"
  | date => "date"
  | boolean => "boolean"
  | select => "select"
  | array => "array"

/-- The field type of a name. -/
def named? (s : String) : Option FieldType :=
  all.find? (·.name = s)

end FieldType

/-- A comparison that a condition can apply to a field value. -/
inductive Operator where
  | equals
  | notEquals
  | contains
  | notContains
  | startsWith
  | endsWith
  | greaterThan
  | lessThan
  | greaterOrEqual
  | lessOrEqual
  | between
  | before
  | after
  | on
  | inLastDays
  | notInLastDays
  | containsAll
  | isIn
  | notIn
  | isTrue
  | isFalse
  | isEmpty
  | isNotEmpty
deriving DecidableEq, Repr

namespace Operator

/-- All operators. -/
def all : List Operator :=
  [equals, notEquals, contains, notContains, startsWith, endsWith, greaterThan, lessThan,
    greaterOrEqual, lessOrEqual, between, before, after, on, inLastDays, notInLastDays, containsAll,
    isIn, notIn, isTrue, isFalse, isEmpty, isNotEmpty]

/-- The name of an operator. -/
def name : Operator → String
  | equals => "equals"
  | notEquals => "not_equals"
  | contains => "contains"
  | notContains => "not_contains"
  | startsWith => "starts_with"
  | endsWith => "ends_with"
  | greaterThan => "greater_than"
  | lessThan => "less_than"
  | greaterOrEqual => "greater_or_equal"
  | lessOrEqual => "less_or_equal"
  | between => "between"
  | before => "before"
  | after => "after"
  | on => "on"
  | inLastDays => "in_last_days"
  | notInLastDays => "not_in_last_days"
  | containsAll => "contains_all"
  | isIn => "in"
  | notIn => "not_in"
  | isTrue => "is_true"
  | isFalse => "is_false"
  | isEmpty => "is_empty"
  | isNotEmpty => "is_not_empty"

/-- The operator of a name. -/
def named? (s : String) : Option Operator :=
  all.find? (·.name = s)

/-- Names that older segment editors wrote. -/
def legacyNames : List (String × Operator) :=
  [("exists", isNotEmpty), ("not_exists", isEmpty), ("array_contains", contains),
    ("array_not_contains", notContains), ("array_contains_all", containsAll),
    ("array_is_empty", isEmpty), ("array_is_not_empty", isNotEmpty)]

/-- The operator that an older editor meant by a name. -/
def ofLegacyName? (s : String) : Option Operator :=
  (legacyNames.find? (·.1 = s)).map (·.2)

/-- The operator takes a value to compare with. -/
def takesValue : Operator → Bool
  | isEmpty | isNotEmpty | isTrue | isFalse => false
  | _ => true

/-- The operator takes an upper bound besides its value. -/
def takesSecondValue : Operator → Bool
  | between => true
  | _ => false

/-- The value of the operator is a list of texts. -/
def takesList : Operator → Bool
  | isIn | notIn | containsAll => true
  | _ => false

/-- The value of the operator is a number of days, whatever the type of the field. -/
def countsDays : Operator → Bool
  | inLastDays | notInLastDays => true
  | _ => false

/-- The name of the operator on date fields: later is after, and earlier is before. -/
def onDates : Operator → Operator
  | greaterThan => after
  | lessThan => before
  | o => o

/-- The operators that a field type allows unless a catalogue says otherwise, in display order. -/
def standard : FieldType → List Operator
  | .string =>
    [equals, notEquals, contains, notContains, startsWith, endsWith, isEmpty, isNotEmpty]
  | .number =>
    [equals, notEquals, greaterThan, lessThan, greaterOrEqual, lessOrEqual, between, isEmpty,
      isNotEmpty]
  | .date => [before, after, on, between, inLastDays, notInLastDays, isEmpty, isNotEmpty]
  | .boolean => [isTrue, isFalse]
  | .select => [equals, notEquals, isIn, notIn, isEmpty, isNotEmpty]
  | .array => [contains, notContains, containsAll, isEmpty, isNotEmpty]

end Operator

end Segmentation
