import Segmentation.Evaluation.Audience
import Segmentation.Segment

/-!
# Resolving segments

A static segment resolves to its members, whatever the contacts are. A dynamic one resolves to the e-mails
of the contacts that its rules select; selected contacts without an e-mail are counted and skipped.
-/

namespace Segmentation

/-- What a segment resolves to. -/
structure Resolution where
  segmentId : String
  emails : List String
  skipped : Nat
  errors : List String
deriving DecidableEq

namespace Resolution

/-- The number of e-mails. -/
def total (r : Resolution) : Nat :=
  r.emails.length

end Resolution

namespace Segment

/-- The e-mail of a contact, if it has one. -/
def email? (contact : Value) : Except Failure (Option String) :=
  let email := contact.resolve "email"
  if email.isSubstantial then email.toText.map some else .ok none

/-- The e-mails of contacts, none for a contact without one. -/
def emailsOf (contacts : List Value) : Except Failure (List (Option String)) :=
  contacts.mapM email?

/-- The error of a dynamic segment that has no rules. -/
def noRules (s : Segment) : String :=
  "Dynamic segment '" ++ s.name ++ "' has no rules"

/-- What the segment resolves to among contacts. The clock is read only if rules are evaluated. -/
def resolve (s : Segment) (contacts : List Value) (evaluator : Evaluator) :
    Except Failure Resolution × Evaluator :=
  match s.membership with
  | .static members => (.ok ⟨s.id, members, 0, []⟩, evaluator)
  | .dynamic none => (.ok ⟨s.id, [], 0, [s.noRules]⟩, evaluator)
  | .dynamic (some rules) =>
    let (selected, evaluator) := evaluator.filter rules contacts
    let result := (emailsOf selected).map fun emails =>
      (⟨s.id, emails.filterMap (fun e => e), emails.countP (·.isNone), []⟩ : Resolution)
    (result, evaluator)

/-- The e-mails in a segment, listed or selected. -/
def emails (s : Segment) (contacts : List Value) (evaluator : Evaluator) :
    Except Failure (List String) × Evaluator :=
  let (result, evaluator) := s.resolve contacts evaluator
  (result.map (·.emails), evaluator)

/-- What is noted about a resolution that skipped contacts. -/
def skippedNote? (s : Segment) (r : Resolution) : Option String :=
  if r.skipped = 0 then none
  else some ("Segment '" ++ s.name ++ "': " ++ toString r.skipped ++
    " matching contact(s) have no e-mail")

end Segment

end Segmentation
