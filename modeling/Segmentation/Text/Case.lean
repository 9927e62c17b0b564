import Segmentation.Text.CaseTable
import Segmentation.Text.CasedTable

/-!
# Small and capital letters

Small and capital forms of text. All mappings are character by character, except for the small sigma,
whose form depends on whether a word ends there.
-/

namespace Segmentation.Text

/-- A cased character that the case rules do not look through. -/
def isCased (c : Char) : Bool :=
  inRanges casedRanges c

/-- A character that the case rules look through. -/
def isCaseIgnorable (c : Char) : Bool :=
  inRanges caseIgnorableRanges c

/-- The first character of `cs` that the case rules see is a cased one. -/
def startsCased (cs : List Char) : Bool :=
  (cs.dropWhile isCaseIgnorable).head?.any isCased

/-- The small form of one character. `inWord` tells that a cased character stands before it, `after`
is the text behind it. -/
def lowerChar (inWord : Bool) (c : Char) (after : List Char) : List Char :=
  if c = 'Σ' then [if inWord && !startsCased after then 'ς' else 'σ']
  else if c = 'İ' then ['i', '\u0307']
  else [shiftChar lowerShifts c]

/-- Small forms of `cs`, given whether a cased character stands before it. -/
def lowerFrom (inWord : Bool) : List Char → List Char
  | [] => []
  | c :: cs =>
    lowerChar inWord c cs ++ lowerFrom (if isCaseIgnorable c then inWord else isCased c) cs

/-- The text in small letters. -/
def lower (s : String) : String :=
  String.ofList (lowerFrom false s.toList)

/-- The capital form of one character, which may take several. -/
def upperChar (c : Char) : List Char :=
  match upperExpansions.find? (·.1 = c.toNat) with
  | some (_, codes) => codes.map Char.ofNat
  | none => [shiftChar upperShifts c]

/-- The text in capitals. -/
def upper (s : String) : String :=
  String.ofList (s.toList.flatMap upperChar)

end Segmentation.Text
