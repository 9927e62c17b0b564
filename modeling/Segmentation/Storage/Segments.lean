import Segmentation.Segment.Checking
import Segmentation.Storage.Document
import Segmentation.Yaml.Emitter

/-!
# Files of segments

A file of segments is a mapping with a list under `segments`. No file, an empty file, and a mapping without
such a list hold no segments.
-/

namespace Segmentation.Storage

open Calendar

variable [Limits]

/-- The items under `segments` of a document. -/
def segmentItems (document : Value) : Except WrongLayout (List Value) :=
  if !document.isSubstantial then .ok []
  else match document with
    | .mapping entries =>
      match Value.valueUnder? entries "segments" with
      | none => .ok []
      | some v =>
        if !v.isSubstantial then .ok []
        else match v with
          | .collection .list items => .ok items
          | _ => .error .segmentsInNoList
    | _ => .error .segmentsInNoMapping

/-- Segments from data; the problems of the first one that does not fit. -/
def checkSegments (now : DateTime) : List Value → StateM IdSupply (Checked (List Segment))
  | [] => pure (.ok [])
  | v :: vs => do
    match ← Segment.check now v with
    | .error ps => return .error ps
    | .ok s => return (← checkSegments now vs).map (s :: ·)

/-- The segments of a document. -/
def segmentsOf (now : DateTime) (document : Value) : StateM IdSupply (Except Fault (List Segment)) := do
  match segmentItems document with
  | .error wrong => return .error (.layout wrong)
  | .ok items => return (← checkSegments now items).mapError .problems

/-- The segments at a path. -/
def readSegments (now : DateTime) (found : Entry) : StateM IdSupply (Except Fault (List Segment)) := do
  if !found.exists? then return .ok []
  match found.text.bind ofYaml with
  | .error fault => return .error fault
  | .ok document => segmentsOf now document

/-- The document that holds segments. -/
def segmentsDocument (segments : List Segment) : Json :=
  .object [("segments", .array (segments.map Segment.encode))]

/-- The document that holds segments as it is written, if their rules let it. -/
def segmentsData (segments : List Segment) : Except WriteFault Json :=
  if segments.any (·.isTooDeep) then .error .nestedTooDeep else .ok (segmentsDocument segments)

/-- The text of a file that holds segments, if there is one. -/
def segmentsText [Yaml.Writer] (segments : List Segment) : Except WriteFault String :=
  segmentsData segments >>= Yaml.Writer.text

end Segmentation.Storage
