import Segmentation.Calendar.DateTime
import Segmentation.Number.Binary64.Arithmetic
import Segmentation.Number.Binary64.Reader
import Segmentation.Text.Base64
import Segmentation.Text.Search
import Segmentation.Value
import Segmentation.Yaml.Node
import Segmentation.Yaml.Timestamp

/-!
# What plain text stands for

Text without quotes and tag is a truth value, a number, a time or nothing if it has the form of one, and
text otherwise. The forms are tried in a fixed order. Integers may be written with base 2, 8, 10 and 16;
a leading zero means base 8, and colons mean base 60.
-/

namespace Segmentation.Yaml

namespace Scalar

/-- The words for truth values. -/
def truthValues : List (String × Bool) :=
  [("yes", true), ("no", false), ("true", true), ("false", false), ("on", true), ("off", false)]

/-- The word as it may be written: in small letters, in capitals, or with one capital at the start. -/
def spellings (word : String) : List String :=
  [word, word.map Char.toUpper,
    match word.toList with
    | c :: cs => String.ofList (c.toUpper :: cs)
    | [] => word]

/-- An underscore or a character of the class `p`. -/
def orUnderscore (p : Char → Bool) (c : Char) : Bool :=
  c = '_' || p c

/-- Digits and underscores, a digit first. -/
def isGroupedNumber : List Char → Bool
  | c :: cs => c.isDigit && cs.all (orUnderscore Char.isDigit)
  | [] => false

/-- A number below 60 of one or two digits. -/
def isSexagesimalDigit : List Char → Bool
  | [c] => c.isDigit
  | [c, d] => '0' ≤ c && c ≤ '5' && d.isDigit
  | _ => false

/-- A grouped number and numbers below 60 after it, with colons between them. -/
def isSexagesimal (cs : List Char) : Bool :=
  match Text.splitOn ':' cs with
  | first :: second :: more => isGroupedNumber first && (second :: more).all isSexagesimalDigit
  | _ => false

/-- An integer without its sign. -/
def isUnsignedInt (cs : List Char) : Bool :=
  match cs with
  | '0' :: 'b' :: ds => !ds.isEmpty && ds.all (orUnderscore fun c => c = '0' || c = '1')
  | '0' :: 'x' :: ds => !ds.isEmpty && ds.all (orUnderscore fun c => (Text.hexValue? c).isSome)
  | '0' :: ds => ds.all (orUnderscore fun c => '0' ≤ c && c ≤ '7')
  | _ => isGroupedNumber cs || isSexagesimal cs

/-- The form of an integer. -/
def isInt (cs : List Char) : Bool :=
  isUnsignedInt (Integer.splitSign cs).2

/-- An exponent with its sign, or nothing. -/
def isExponent : List Char → Bool
  | [] => true
  | e :: s :: ds => (e = 'e' || e = 'E') && (s = '+' || s = '-') && !ds.isEmpty && ds.all Char.isDigit
  | _ => false

/-- What may stand behind the point of a number: digits and underscores, and an exponent. -/
def isFraction (cs : List Char) : Bool :=
  isExponent (cs.dropWhile (orUnderscore Char.isDigit))

/-- The form of a floating-point number. -/
def isFloat (cs : List Char) : Bool :=
  let (_, unsigned) := Integer.splitSign cs
  let whole := unsigned.takeWhile (· ≠ '.')
  match unsigned.dropWhile (· ≠ '.') with
  | [] => false
  | _ :: fraction =>
    if whole.isEmpty then
      ["inf", "Inf", "INF"].contains (String.ofList fraction) ||
        (unsigned.length = cs.length &&
          (["nan", "NaN", "NAN"].contains (String.ofList fraction) ||
            (fraction.head?.any Char.isDigit && isFraction fraction)))
    else if isSexagesimal whole then fraction.all (orUnderscore Char.isDigit)
    else isGroupedNumber whole && isFraction fraction

/-- The tag of plain text. -/
def tagOf (s : String) : Tag :=
  let cs := s.toList
  if truthValues.any fun (word, _) => (spellings word).contains s then .bool
  else if isFloat cs then .float
  else if isInt cs then .int
  else if s = "<<" then .merge
  else if s = "" || s = "~" || (spellings "null").contains s then .null
  else if Timestamp.isPlain cs then .timestamp
  else if s = "=" then .default
  else .text

/-- Reads digits in a base that is a power of two. Blanks around them, a sign, and the mark of the base
after a zero are allowed. -/
def inBase (base : Nat) (mark : Char) (cs : List Char) : Except Fault Int :=
  let (negative, ds) := Integer.splitSign (Text.asciiDigits (Text.trimList Text.isSpace cs))
  let ds := match ds with
    | '0' :: c :: rest => if c.toLower = mark then rest else ds
    | _ => ds
  let value? := ds.foldl (fun n? c => n?.bind fun n => (Text.hexValue? c).bind fun d =>
    if d < base then some (n * base + d) else none) (some 0)
  match value? with
  | some n => if ds.isEmpty then .error .unreadable else .ok (if negative then -n else n)
  | none => .error .unreadable

/-- Reads digits in base ten. -/
def inTen (cs : List Char) : Except Fault Int :=
  match Integer.ofText? (String.ofList cs) with
  | some n => .ok n
  | none => .error .unreadable

/-- Reads an integer. -/
def readInt (s : String) : Except Fault Int := do
  let (negative, cs) := Integer.splitSign (s.toList.filter (· ≠ '_'))
  let n ← match cs with
    | [] => .error .blankNumber
    | ['0'] => .ok 0
    | '0' :: 'b' :: ds => inBase 2 'b' ds
    | '0' :: 'x' :: ds => inBase 16 'x' ds
    | '0' :: _ => inBase 8 'o' cs
    | _ =>
      if cs.contains ':' then do
        let parts ← (Text.splitOn ':' cs).mapM inTen
        .ok (parts.foldl (fun (n part : Int) => n * 60 + part) 0)
      else inTen cs
  return if negative then -n else n

/-- Reads one part of a number, in decimal notation. -/
def readPart (cs : List Char) : Except Fault Binary64 :=
  match Binary64.ofText? (String.ofList cs) with
  | some x => .ok x
  | none => .error .unreadable

/-- The sum of parts that count in units of a power of 60, starting with units of `60 ^ exponent`. -/
def sexagesimalSum (sum : Binary64) (exponent : Nat) : List Binary64 → Except Fault Binary64
  | [] => .ok sum
  | x :: xs =>
    let unit := Binary64.ofInt (Nat.pow 60 exponent)
    if unit.isFinite then sexagesimalSum (sum.add (x.mul unit)) (exponent + 1) xs
    else .error .tooLarge

/-- Reads a floating-point number. -/
def readFloat (s : String) : Except Fault Binary64 := do
  let whole := (Text.lower s).toList.filter (· ≠ '_')
  let (negative, cs) := Integer.splitSign whole
  let x ←
    if whole.isEmpty then .error .blankNumber
    else if cs = ".inf".toList then .ok (.infinite false)
    else if cs = ".nan".toList then .ok .nan
    else if cs.contains ':' then do
      sexagesimalSum (.zero false) 0 (← (Text.splitOn ':' cs).mapM readPart).reverse
    else readPart cs
  return if negative then x.negate else x

/-- What text stands for under a tag. -/
def read (tag : Tag) (s : String) : Except Fault Value :=
  match tag with
  | .null => .ok .null
  | .bool =>
    match List.lookup (Text.lower s) truthValues with
    | some b => .ok (.bool b)
    | none => .error .unknownTruthValue
  | .int => (readInt s).map .int
  | .float => (readFloat s).map .float
  | .binary =>
    if s.toList.all (·.toNat < 128) then
      match Text.Base64.decode? s.toList with
      | some bytes => .ok (.bytes bytes)
      | none => .error .malformed
    else .error .malformed
  | .timestamp => Timestamp.read s.toList
  | .text => .ok (.text s)
  | _ => .error .malformed

end Scalar

end Segmentation.Yaml
