import Segmentation.Limits
import Segmentation.Number.Binary64.Reader
import Segmentation.Text.Numeral

/-!
# The tokens of JSON text

Text is cut into brackets, separators, names, numbers and texts in quotes. Blanks between tokens are
passed over. Where no token can be read, the sequence ends in `invalid`. Besides the names of the standard
there are three for the floating-point numbers that have no digits. Readers differ in what they let through
beyond that, which a `Dialect` tells.
-/

namespace Segmentation.Json

/-- What a reader lets through. -/
structure Dialect where
  /-- One half of a character beyond the first plane may be escaped without the other. -/
  loneHalves : Bool
  /-- A number has too many digits before its point; `whole` tells that nothing follows these digits. -/
  isTooLong : (negative whole : Bool) → (digits : Nat) → Bool
  /-- The greatest number of arrays and objects that lie in each other, if there is one. -/
  nesting : Option Nat
  /-- A number that is shorter than the longest integers is never too long. -/
  isTooLong_of_lt : ∀ negative whole digits, digits < Integer.maxDigits →
    isTooLong negative whole digits = false

namespace Dialect

/-- Everything that is written by the rules is let through. -/
def free : Dialect :=
  ⟨true, fun _ _ _ => false, none, fun _ _ _ _ => rfl⟩

/-- Only integers can be too long, and the sign does not count. -/
def plain : Dialect where
  loneHalves := true
  isTooLong _ whole digits := whole && Integer.maxDigits < digits
  nesting := none
  isTooLong_of_lt negative whole digits h := by simp [Nat.le_of_lt h]

/-- All numbers can be too long, the sign counts as a digit, and nesting is limited. -/
def strict [Limits] : Dialect where
  loneHalves := false
  isTooLong negative _ digits := Integer.maxDigits < negative.toNat + digits
  nesting := some Limits.text
  isTooLong_of_lt negative whole digits h := by
    have := negative.toNat_le
    simp
    omega

end Dialect

/-- A piece of JSON text. -/
inductive Token where
  | beginObject
  | endObject
  | beginArray
  | endArray
  | colon
  | comma
  | null
  | bool (b : Bool)
  | int (n : Int)
  | longNumber
  | float (x : Binary64)
  | text (s : String)
  | invalid
deriving DecidableEq

namespace Token

/-- The blanks that may stand between tokens. -/
def isBlank (c : Char) : Bool :=
  c = ' ' || c = '\t' || c = '\n' || c = '\r'

/-- The number of four hexadecimal digits. -/
def hex4? (a b c d : Char) : Option Nat := do
  pure ((((← Text.hexValue? a) * 16 + (← Text.hexValue? b)) * 16 + (← Text.hexValue? c)) * 16 + (← Text.hexValue? d))

/-- The character of a two-character escape. -/
def escaped? : Char → Option Char
  | '"' => some '"'
  | '\\' => some '\\'
  | '/' => some '/'
  | 'b' => some '\x08'
  | 'f' => some '\x0c'
  | 'n' => some '\n'
  | 'r' => some '\r'
  | 't' => some '\t'
  | _ => none

/-- The number of an escape by four digits at the start of the text. -/
def unicodeEscape? : List Char → Option Nat
  | '\\' :: 'u' :: a :: b :: c :: d :: _ => hex4? a b c d
  | _ => none

/-- The number is the first half of a character beyond the first plane. -/
def isFirstHalf (n : Nat) : Bool :=
  0xd800 ≤ n && n < 0xdc00

/-- The number is the second half of a character beyond the first plane. -/
def isSecondHalf (n : Nat) : Bool :=
  0xdc00 ≤ n && n < 0xe000

/-- The character of two halves. -/
def joined (first second : Nat) : Char :=
  Char.ofNat (0x10000 + (first - 0xd800) * 0x400 + (second - 0xdc00))

variable (dialect : Dialect)

/-- The text up to the closing quote, and what follows the quote. Characters beyond the first plane may be
escaped as two halves. A half without the other one is no character; where it is let through, the
replacement character stands for it. -/
def quoted? : List Char → Option (List Char × List Char)
  | [] => none
  | '"' :: rest => some ([], rest)
  | '\\' :: 'u' :: a :: b :: c :: d :: rest =>
    match hex4? a b c d with
    | none => none
    | some n =>
      if isFirstHalf n && (unicodeEscape? rest).any isSecondHalf then
        match rest with
        | _ :: _ :: e :: f :: g :: h :: rest =>
          (quoted? rest).map fun (cs, after) => (joined n ((hex4? e f g h).getD 0) :: cs, after)
        | _ => none
      else if isFirstHalf n || isSecondHalf n then
        if dialect.loneHalves then (quoted? rest).map fun (cs, after) => ('\ufffd' :: cs, after) else none
      else (quoted? rest).map fun (cs, after) => (Char.ofNat n :: cs, after)
  | '\\' :: e :: rest =>
    match escaped? e with
    | none => none
    | some c => (quoted? rest).map fun (cs, after) => (c :: cs, after)
  | c :: rest =>
    if c = '\\' || c.toNat < 0x20 then none
    else (quoted? rest).map fun (cs, after) => (c :: cs, after)

/-- The digits of an integer part, which starts with zero only if it is zero. -/
def integerPart? : List Char → Option (List Char × List Char)
  | '0' :: rest => some (['0'], rest)
  | c :: rest =>
    if c.isDigit then some (c :: rest.takeWhile Char.isDigit, rest.dropWhile Char.isDigit) else none
  | [] => none

/-- The digits after a point, if a point and a digit follow. -/
def fractionPart : List Char → List Char × List Char
  | '.' :: c :: rest =>
    if c.isDigit then (c :: rest.takeWhile Char.isDigit, rest.dropWhile Char.isDigit)
    else ([], '.' :: c :: rest)
  | cs => ([], cs)

/-- An exponent, if its mark and a digit follow. -/
def exponentPart (cs : List Char) : Option Int × List Char :=
  match cs with
  | e :: rest =>
    if e = 'e' || e = 'E' then
      let (negative, after) := Integer.splitSign rest
      let ds := after.takeWhile Char.isDigit
      match Integer.ofDigits? 0 ds with
      | some n =>
        if ds.isEmpty then (none, cs)
        else (some (if negative then -n else n), after.dropWhile Char.isDigit)
      | none => (none, cs)
    else (none, cs)
  | [] => (none, cs)

/-- A number without its sign. -/
def number? (negative : Bool) (cs : List Char) : Option (Token × List Char) := do
  let (whole, rest) ← integerPart? cs
  let (fraction, rest) := fractionPart rest
  let (exponent, rest) := exponentPart rest
  let isWhole := fraction.isEmpty && exponent.isNone
  if dialect.isTooLong negative isWhole whole.length then pure (longNumber, rest)
  else if isWhole then
    let n := (Integer.ofDigits? 0 whole).getD 0
    pure (int (if negative then -n else n), rest)
  else
    pure (float ((⟨whole, fraction, exponent.getD 0⟩ : Binary64.DecimalParts).toBinary64 negative), rest)

/-- What follows a name, if the text starts with the name. -/
def afterName? (name : String) (cs : List Char) : Option (List Char) :=
  if name.toList.isPrefixOf cs then some (cs.drop name.length) else none

/-- The names with a meaning. -/
def names : List (String × Token) :=
  [("null", null), ("true", bool true), ("false", bool false), ("NaN", float .nan),
    ("Infinity", float (.infinite false)), ("-Infinity", float (.infinite true))]

/-- A name at the start of the text. -/
def name? (cs : List Char) : Option (Token × List Char) :=
  names.findSome? fun (name, token) => (afterName? name cs).map fun rest => (token, rest)

/-- The token at the start of a text without leading blanks, and what follows it. -/
def next? : List Char → Option (Token × List Char)
  | [] => none
  | c :: rest =>
    if c = '\x7b' then some (beginObject, rest)
    else if c = '\x7d' then some (endObject, rest)
    else if c = '[' then some (beginArray, rest)
    else if c = ']' then some (endArray, rest)
    else if c = ':' then some (colon, rest)
    else if c = ',' then some (comma, rest)
    else if c = '"' then (quoted? dialect rest).map fun (cs, after) => (text (String.ofList cs), after)
    else match name? (c :: rest) with
      | some found => some found
      | none => if c = '-' then number? dialect true rest else number? dialect false (c :: rest)

/-- The tokens of a text, of which at most `fuel` are read. -/
def scanFrom : (fuel : Nat) → List Char → List Token
  | 0, _ => []
  | fuel + 1, cs =>
    match cs.dropWhile isBlank with
    | [] => []
    | cs =>
      match next? dialect cs with
      | some (token, rest) => token :: scanFrom fuel rest
      | none => [invalid]

/-- The tokens of a text; each takes at least one character. -/
def scan (cs : List Char) : List Token :=
  scanFrom dialect cs.length cs

/-- The greatest number of brackets that are open at once, of which `opened` are open before the tokens.
Brackets with nothing between them do not count. -/
def nesting (opened : Nat) : List Token → Nat
  | [] => opened
  | beginArray :: endArray :: rest => nesting opened rest
  | beginObject :: endObject :: rest => nesting opened rest
  | beginArray :: rest => nesting (opened + 1) rest
  | beginObject :: rest => nesting (opened + 1) rest
  | endArray :: rest => max opened (nesting (opened - 1) rest)
  | endObject :: rest => max opened (nesting (opened - 1) rest)
  | _ :: rest => nesting opened rest

end Token

end Segmentation.Json
