import Segmentation.Yaml.Token

/-!
# Plain text

Text without quotes ends at a comment, at a colon before a blank, at a line that is indented too little,
and, inside brackets, at an indicator. A line break with the blanks around it counts as one blank, and each
further break as a line feed.
-/

namespace Segmentation.Yaml.Plain

open Scan

/-- A comma or bracket, which has a meaning inside brackets. -/
def isFlowIndicator (c : Char) : Bool :=
  c = ',' || c = '[' || c = ']' || c = '\x7b' || c = '\x7d'

/-- The characters up to the first one that ends a word of plain text. -/
def word (inFlow : Bool) : List Char → List Char
  | [] => []
  | c :: cs =>
    if isBlank c || isBreak c || (inFlow && (isFlowIndicator c || c = '?')) then []
    else if c = ':' && (endsWord cs.head? || (inFlow && cs.head?.any isFlowIndicator)) then []
    else c :: word inFlow cs

/-- What stands between two words, if more words may follow it, and whether a line ended there. -/
structure Gap where
  text : Option (List Char)
  endsLine : Bool

/-- Takes blanks and breaks up to the text of a further line; nothing if a document ends before it. -/
def breaksFrom : (fuel : Nat) → Scan (Option (List Char))
  | 0 => throw .malformed
  | fuel + 1 => do
    if ← atDocumentMark then return none
    let _ ← Scan.takeWhile (· = ' ')
    match ← lineBreak with
    | [] => return some []
    | cs => return (← breaksFrom fuel).map (cs ++ ·)

/-- Takes what stands between two words. -/
def gap : Scan Gap := do
  let blanks ← Scan.takeWhile (· = ' ')
  match ← lineBreak with
  | [] => return ⟨if blanks.isEmpty then none else some blanks, false⟩
  | first =>
    let joined := (← breaksFrom (← bound)).map fun further =>
      if first ≠ ['\n'] then first ++ further else if further.isEmpty then [' '] else further
    return ⟨joined, true⟩

/-- Takes words and the gaps between them, the first word after `before`, and tells whether the last gap
ended a line. -/
def textFrom (inFlow : Bool) (floor : Nat) (before : List Char) (lineEnded : Bool) :
    (fuel : Nat) → Scan (List Char × Bool)
  | 0 => throw .malformed
  | fuel + 1 => do
    let run := word inFlow (← get).rest
    if run.isEmpty || (← peek) = some '#' then return ([], lineEnded)
    skip run.length
    let between ← gap
    match between.text with
    | none => return (before ++ run, between.endsLine)
    | some blanks =>
      if (← peek) = some '#' || (!inFlow && (← get).column < floor) then
        return (before ++ run, between.endsLine)
      else
        let (more, ended) ← textFrom inFlow floor blanks between.endsLine fuel
        return (before ++ run ++ more, ended)

/-- Takes plain text whose further lines start at column `floor` or behind it, and tells whether a line
ended after it. -/
def token (inFlow : Bool) (floor : Nat) : Scan (Token × Bool) := do
  let (cs, lineEnded) ← textFrom inFlow floor [] false (← bound)
  return (.scalar (String.ofList cs) true, lineEnded)

end Segmentation.Yaml.Plain
