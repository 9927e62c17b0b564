import Segmentation.Console.RuleTree
import Segmentation.Console.Session
import Segmentation.Segment.Members
import Segmentation.Segment.Resolution
import Segmentation.Validation

/-!
# Commands about segments

Listing, showing and checking segments, resolving them among contacts, and changing them.
-/

namespace Segmentation.Console

open Procedure

variable [Terminal] [Storage.Wording] [Limits] [Yaml.Writer]

/-- A name and what follows it, shown in bold before a value. -/
def labelled (label value : String) : String :=
  Text.Markup.styled "bold" (label ++ ":") ++ " " ++ value

/-- The row of a segment. -/
def segmentRow (s : Segment) : List String :=
  [s.name, s.type.name, toString s.contactCount, s.updatedAt.minuteText, s.description]

/-- Lists all segments. -/
def list : Procedure Unit := do
  let stored ← segments (← settings)
  if stored.isEmpty then
    say (Text.Markup.styled "yellow" "No segments configured")
    say ("Run " ++ Text.Markup.styled "bold" "audience-builder init" ++ " to create example segments")
  else
    print (.table "Segments" ["Name", "Type", "Contacts", "Updated", "Description"]
      (stored.map segmentRow))

/-- Shows a segment with its members or its rule tree. -/
def display (name : String) : Procedure Unit := do
  let given ← settings
  let c ← catalogue given
  let s ← requireSegment (← segments given) name
  say ("\n" ++ labelled "Segment" s.name)
  say (labelled "Type" s.type.name)
  say (labelled "Description" (if s.description = "" then "-" else s.description))
  say (labelled "Contacts" (toString s.contactCount ++ "\n"))
  match s.membership with
  | .static members => members.forM fun email => say ("  " ++ email)
  | .dynamic none => say (Text.Markup.styled "yellow" "No rules defined")
  | .dynamic (some rules) =>
    print (.tree (← orFailure (rules.shownUnder c (Text.Markup.styled "bold" rules.connective.name))))

/-- The line for an issue. -/
def issueLine (i : Issue) : String :=
  let color := match i.severity with
    | .error => "red"
    | .warning => "yellow"
  "  " ++ Text.Markup.styled color (Text.Markup.escape i.text)

/-- What is said about a segment with rules and its issues. -/
def issueLines (s : Segment) (issues : List Issue) : List String :=
  if issues.isEmpty then [Text.Markup.styled "green" "✓" ++ " " ++ s.name]
  else Text.Markup.styled "bold" s.name :: issues.map issueLine

/-- Checks the rules of one segment or of all; fails if there is an error. -/
def validate (name : Option String) : Procedure Unit := do
  let given ← settings
  let c ← catalogue given
  let stored ← segments given
  let chosen ← match name with
    | none => pure stored
    | some name => if name = "" then pure stored else do pure [← requireSegment stored name]
  let checked := chosen.filterMap fun s => s.rules.map fun g => (s, g.validate c)
  (checked.flatMap fun (s, issues) => issueLines s issues).forM say
  if checked.any fun (_, issues) => issues.any (·.severity = .error) then throw (.exit 1)

/-- The e-mails that are shown: as many as `limit` says; a negative limit says how many at the end are
not. -/
def shownEmails (emails : List String) (limit : Int) : List String :=
  if 0 ≤ limit then emails.take limit.toNat else emails.take (emails.length - limit.natAbs)

/-- The number of e-mails that is announced as not shown, if there are more than the limit. -/
def announcedRest? (emails : List String) (limit : Int) : Option Int :=
  if limit < emails.length then some (emails.length - limit) else none

/-- The fault is one that a command says when contacts cannot be had. Text that is no YAML document at all,
and some values in it, are not among them, nor is text that is nested too deeply. -/
def isReported : Storage.Fault → Bool
  | .yaml fault => fault = .unreadable
  | .json fault => fault ≠ .nestedTooDeep
  | _ => true

/-- The contacts at a path. If they cannot be had, this is logged and said. -/
def contacts (logger : String) (path : Path) : Procedure (List Value) := do
  let found ← entry path
  match Storage.readContacts path found with
  | .ok contacts => return contacts
  | .error fault =>
    if isReported fault then
      let reason := fault.message path found
      work (Work.log logger .error ("Could not load contacts from " ++ path.text ++ ": " ++ reason))
      fail (Text.Markup.styled "red" "Error loading contacts:" ++ " " ++ reason)
    else throw (.escape (.storage fault))

/-- How many of how many contacts were found. -/
def tally (r : Resolution) (contacts : List Value) : String :=
  toString r.total ++ " of " ++ toString contacts.length ++ " contacts"

/-- Resolves a segment among contacts and shows the e-mails. The number is stored on demand. -/
def evaluate (name : String) (contactsPath : Option Path) (limit : Int) (save : Bool) : Procedure Unit := do
  let given ← settings
  let c ← catalogue given
  let stored ← segments given
  let s ← requireSegment stored name
  let _ ← work (Work.setUpJournal (some given))
  let logger ← work (Work.segmentLogger s.name)
  let found ← contacts logger (contactsPath.getD given.contactsPath)
  let now := (← get).workspace.now
  let r ← orFailure (s.resolve found ⟨c, .system, now⟩).1
  work (Work.log logger .info ("Matched " ++ tally r found ++ " in 0.0ms"))
  r.errors.forM fun error => do
    work (Work.log logger .error error)
    say (Text.Markup.styled "red" error)
  print (.table (s.name ++ ": " ++ tally r found) ["E-mail"]
    ((shownEmails r.emails limit).map fun email => [email]))
  if let some rest := announcedRest? r.emails limit then
    say (Text.Markup.styled "dim" ("... and " ++ toString rest ++ " more"))
  if r.skipped ≠ 0 then
    say (Text.Markup.styled "yellow" (toString r.skipped ++ " matching contact(s) have no e-mail"))
  if save then
    saveSegments given (Segment.replace stored (s.withContactCount r.total now))
    say (Text.Markup.styled "green" "Contact count saved")

/-- Creates a segment with the initial rule tree or without members. -/
def create (name description : String) (type : SegmentType) : Procedure Unit := do
  let given ← settings
  let c ← catalogue given
  let stored ← segments given
  if (Segment.find? stored name).isSome then
    fail (Text.Markup.styled "red" "Segment already exists:" ++ " " ++ name)
  let now := (← get).workspace.now
  let s ← work do
    let id ← Work.drawing IdSupply.draw
    let groupId ← Work.drawing IdSupply.draw
    let conditionId ← Work.drawing IdSupply.draw
    Work.ofChecked (Segment.create c now name description type id groupId conditionId)
  saveSegments given (stored ++ [s])
  say (Text.Markup.styled "green" "Created" ++ " " ++ type.name ++ " segment " ++ name)

/-- Changes the members of a segment, stores it, and gives it before and after. -/
def changeMembers (name : String)
    (change : Segment → Calendar.DateTime → Except Segment.MemberError Segment) :
    Procedure (Segment × Segment) := do
  let given ← settings
  let stored ← segments given
  let s ← requireSegment stored name
  match change s (← get).workspace.now with
  | .error e => fail (Text.Markup.styled "red" e.message)
  | .ok updated =>
    saveSegments given (Segment.replace stored updated)
    return (s, updated)

/-- Adds addresses to a static segment. -/
def addMembers (name : String) (emails : List String) : Procedure Unit := do
  let (before, after) ← changeMembers name fun s now => s.addMembers emails now
  let added : Int := after.contactCount - before.members.length
  say (Text.Markup.styled "green" ("Added " ++ toString added ++ " member(s)") ++
    " (" ++ toString after.contactCount ++ " total)")

/-- Removes addresses from a static segment. -/
def removeMembers (name : String) (emails : List String) : Procedure Unit := do
  let (before, after) ← changeMembers name fun s now => s.removeMembers emails now
  let removed : Int := before.members.length - after.contactCount
  say (Text.Markup.styled "yellow" ("Removed " ++ toString removed ++ " member(s)") ++
    " (" ++ toString after.contactCount ++ " total)")

end Segmentation.Console
