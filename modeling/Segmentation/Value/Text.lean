import Segmentation.Failure
import Segmentation.Number.Integer
import Segmentation.Text.Quoted
import Segmentation.Text.Search
import Segmentation.Value

/-!
# The text of a value

The text of a scalar is its plain form. In collections, mappings and records the members are written in
a form that tells their kind: text in quotes, dates and decimals under the name of their kind.
-/

namespace Segmentation

open Calendar

/-- The text of an integer; too long ones have none. -/
def Integer.text (n : Int) : Except Failure String :=
  match Integer.text? n with
  | some s => .ok s
  | none => .error .integerTooLong

namespace Value

/-- Numbers one after another with commas between. -/
def commaSeparated (parts : List String) : String :=
  Text.join ", " parts

/-- The named form of a span of time, in days, seconds and microseconds. -/
def spanForm (micros : Int) : String :=
  let days := micros / microsPerDay
  let rest := (micros % microsPerDay).toNat
  let parts := [("days", days), ("seconds", (rest / microsPerSecond : Nat)),
    ("microseconds", (rest % microsPerSecond : Nat))]
  let shown := parts.filter fun (_, n) => n ≠ 0
  "datetime.timedelta(" ++ (if shown.isEmpty then "0" else
    commaSeparated (shown.map fun (name, n) => name ++ "=" ++ toString n)) ++ ")"

/-- The named form of a distance from UTC. -/
def zoneForm (offset : Int) : String :=
  if offset = 0 then "datetime.timezone.utc"
  else "datetime.timezone(" ++ spanForm offset ++ ")"

/-- The named form of a date. -/
def dateForm (d : Date) : String :=
  "datetime.date(" ++ commaSeparated ([d.year, d.month, d.day].map toString) ++ ")"

/-- The named form of a datetime; seconds and microseconds are left out if they and all after are zero. -/
def dateTimeForm (d : DateTime) : String :=
  let seconds := d.time / microsPerSecond
  let micros := d.time % microsPerSecond
  let parts := [d.date.year, d.date.month, d.date.day, seconds / 3600, seconds / 60 % 60] ++
    (if seconds % 60 = 0 ∧ micros = 0 then [] else [seconds % 60]) ++
    (if micros = 0 then [] else [micros])
  let zone := match d.offset with
    | none => []
    | some o => ["tzinfo=" ++ zoneForm o]
  "datetime.datetime(" ++ commaSeparated (parts.map toString ++ zone) ++ ")"

/-- The members of a collection, already written, in the brackets of its kind. -/
def bracketed : Collection → List String → String
  | .list, parts => "[" ++ commaSeparated parts ++ "]"
  | .tuple, [part] => "(" ++ part ++ ",)"
  | .tuple, parts => "(" ++ commaSeparated parts ++ ")"
  | .set, [] => "set()"
  | .set, parts => "\x7b" ++ commaSeparated parts ++ "\x7d"
  | .frozenSet, [] => "frozenset()"
  | .frozenSet, parts => "frozenset(\x7b" ++ commaSeparated parts ++ "\x7d)"

mutual

/-- The form of a value inside a collection, which tells its kind. -/
def form : Value → Except Failure String
  | null => .ok "None"
  | bool b => .ok (if b then "True" else "False")
  | int n => Integer.text n
  | float x => .ok (x.text .plain)
  | decimal d => .ok ("Decimal(" ++ Text.Quoted.text d.text ++ ")")
  | text s => .ok (Text.Quoted.text s)
  | bytes bs => .ok (Text.Quoted.bytes bs)
  | date d => .ok (dateForm d)
  | datetime d => .ok (dateTimeForm d)
  | collection kind items => do return bracketed kind (← forms items)
  | mapping entries => do return "\x7b" ++ commaSeparated (← entryForms entries) ++ "\x7d"
  | record fields => do return "namespace(" ++ commaSeparated (← fieldForms fields) ++ ")"

/-- The forms of the members of a collection. -/
def forms : List Value → Except Failure (List String)
  | [] => .ok []
  | v :: vs => do return (← form v) :: (← forms vs)

/-- The forms of the entries of a mapping. -/
def entryForms : List (Value × Value) → Except Failure (List String)
  | [] => .ok []
  | (k, v) :: es => do return ((← form k) ++ ": " ++ (← form v)) :: (← entryForms es)

/-- The forms of the fields of a record. -/
def fieldForms : List (String × Value) → Except Failure (List String)
  | [] => .ok []
  | (k, v) :: fs => do return (k ++ "=" ++ (← form v)) :: (← fieldForms fs)

end

/-- The text of a value. -/
def toText : Value → Except Failure String
  | text s => .ok s
  | decimal d => .ok d.text
  | date d => .ok d.text
  | datetime d => .ok (d.textWith ' ')
  | v => v.form

end Value

end Segmentation
