import Segmentation.Proofs.Console.Example
import Segmentation.Proofs.Console.Session
import Segmentation.Proofs.Editing.Built
import Segmentation.Proofs.Storage.Layout

/-!
# Stored segments are loaded again

* `Segment.Accepted`: the segments that can be made, and `Segment.Accepted.storable`.
* `FileTree.CanHold`: a file can be written at a path.
* `saveSegments_of_canHold`, `segments_of_entry`: what storing leaves, and what loading makes of it.
* `segments_after_saveSegments`: loading after storing gives the same segments, if the writer keeps their document.
* `saveSegments_of_error`, `not_saved_huge_and_deep`: what is not written, and what of it there is.
-/

namespace Segmentation

open Storage

/-- The segment has a name, its rules were decoded from data or made by edits, and its times are naive or whole minutes
away from UTC. -/
structure Segment.Accepted [Limits] (s : Segment) : Prop where
  name : s.name ≠ ""
  built : ∀ g ∈ s.rules, g.Built
  createdAt : s.createdAt.IsToMinute
  updatedAt : s.updatedAt.IsToMinute

/-- The groups in the rules of the segment do not lie too deep in each other to be written and read. -/
def Segment.IsShallow [Limits] (s : Segment) : Prop :=
  ∀ g ∈ s.rules, g.depth ≤ Limits.written ∧ g.depth ≤ Limits.read

theorem Segment.Accepted.storable [Limits] {s : Segment} (h : s.Accepted) (hshallow : s.IsShallow) : s.Storable where
  name := h.name
  settled g hg := (h.built g hg).settled
  depth := hshallow
  createdAt := h.createdAt
  updatedAt := h.updatedAt

/-- A file can be written at the path, once its directory has been made. -/
def Storage.FileTree.CanHold (t : FileTree) (p : Path) : Prop :=
  ∃ u v, t.makeDirectory p.parent = .ok u ∧ u.write p "" = .ok v

namespace Console

section

variable [Limits] [Yaml.Writer] {given : Settings} {stored : List Segment} {s : Session}

/-- Where a file can be written, the text of segments is written, or an empty one if they have none. -/
theorem run_saveSegments {document : Json} (hroom : s.workspace.tree.CanHold given.segmentsPath)
    (hdata : segmentsData stored = .ok document) :
    ∃ w, Rewritten given ((Yaml.Writer.text document).toOption.getD "") s.workspace w ∧
      (saveSegments given stored).run.run s = (match Yaml.Writer.text document with
        | .ok _ => .ok ()
        | .error fault => .error (.escape (.unwritten fault)), { s with workspace := w }) := by
  obtain ⟨tree, _, hmade, hempty⟩ := hroom
  obtain ⟨tree', hwritten⟩ := FileTree.exists_write hempty ((Yaml.Writer.text document).toOption.getD "")
  refine ⟨{ s.workspace with tree := tree' }, ⟨tree, tree', hmade, hwritten, rfl⟩, ?_⟩
  have hok {α : Type} (a : α) (s : Session) : (orUnwritten (.ok a) : Procedure α).run.run s = (.ok a, s) := rfl
  unfold saveSegments
  rw [Triple.run_bind, Procedure.run_work, Work.changeTree_run, hmade]
  dsimp only
  rw [Triple.run_bind, hdata, hok]
  dsimp only
  rw [Triple.run_bind, Procedure.run_work, Work.changeTree_run, hwritten]
  dsimp only
  rw [Triple.run_bind]
  cases Yaml.Writer.text document <;> rfl

/-- Where a file can be written, segments that have a text are stored. -/
theorem saveSegments_of_canHold {text : String} (hroom : s.workspace.tree.CanHold given.segmentsPath)
    (htext : segmentsText stored = .ok text) :
    ∃ w, Rewritten given text s.workspace w ∧
      (saveSegments given stored).run.run s = (.ok (), { s with workspace := w }) := by
  obtain ⟨document, hdata, hwritten⟩ := bind_eq_ok.1 htext
  obtain ⟨w, hw, hrun⟩ := run_saveSegments hroom hdata
  rw [hwritten] at hw hrun
  exact ⟨w, hw, hrun⟩

/-- Where a file can be written, but segments have no text, nothing is stored, and it escapes why. -/
theorem saveSegments_of_error {fault : WriteFault} (hroom : s.workspace.tree.CanHold given.segmentsPath)
    (htext : segmentsText stored = .error fault) :
    ∃ w, (saveSegments given stored).run.run s = (.error (.escape (.unwritten fault)), { s with workspace := w }) := by
  cases hdata : segmentsData stored with
  | ok document =>
    obtain ⟨w, -, hrun⟩ := run_saveSegments hroom hdata
    rw [segmentsText, hdata] at htext
    rw [show Yaml.Writer.text document = .error fault from htext] at hrun
    exact ⟨w, hrun⟩
  | error fault' =>
    obtain ⟨tree, _, hmade, -⟩ := hroom
    rw [segmentsText, hdata] at htext
    cases htext
    refine ⟨{ s.workspace with tree }, ?_⟩
    unfold saveSegments
    rw [Triple.run_bind, Procedure.run_work, Work.changeTree_run, hmade]
    dsimp only
    rw [hdata, Triple.run_bind]
    rfl

omit [Yaml.Writer] in
/-- Loading goes on with what reading the file gives. -/
theorem segments_of_entry [Terminal] [Wording] {text : String}
    (hentry : s.workspace.tree.entry given.segmentsPath = .file text)
    (hread : readSegments s.workspace.now (.file text) = pure (.ok stored)) :
    (segments given).run.run s = (.ok stored, s) := by
  have hloading : s.workspace.loading given = (.ok stored, s.workspace.ids) := by
    rw [Workspace.loading, hentry, hread]
    rfl
  have hloaded : (s.workspace.loading given).1 = .ok stored := by rw [hloading]
  rw [run_segments hloaded, hloading]

/-- Wherever a file can be written, and whatever it held before, storing segments succeeds if their rules are shallow
and the writer keeps their document. Every session that finds the file as it was left then loads the same segments in
the same order; this draws no identifier and changes nothing. -/
theorem segments_after_saveSegments [Terminal] [Wording] (haccepted : ∀ t ∈ stored, t.Accepted)
    (hshallow : ∀ t ∈ stored, t.IsShallow) (hkeeps : Yaml.Keeps (segmentsDocument stored))
    (hroom : s.workspace.tree.CanHold given.segmentsPath) :
    ∃ s' : Session, (saveSegments given stored).run.run s = (.ok (), s') ∧
      ∀ later : Session,
        later.workspace.tree.entry given.segmentsPath = s'.workspace.tree.entry given.segmentsPath →
          (segments given).run.run later = (.ok stored, later) := by
  have hstorable : ∀ t ∈ stored, t.Storable := fun t ht => (haccepted t ht).storable (hshallow t ht)
  obtain ⟨text, htext, -⟩ := exists_segmentsText hstorable hkeeps
  obtain ⟨w, hw, hsaved⟩ := saveSegments_of_canHold hroom htext
  exact ⟨_, hsaved, fun later hlater => segments_of_entry (hlater.trans hw.entry)
    (readSegments_text hstorable hkeeps htext _)⟩

end

/-- The times of the example are one and a half hours behind. -/
def Example.behind : Calendar.DateTime :=
  ⟨default, 1, some (-5400000000), by decide, by decide⟩

/-- A session in which a file stands where the settings look for segments. -/
def Example.session : Session :=
  ⟨⟨⟨"/", []⟩, [], ⟨⟨"/", []⟩, [(⟨"/", ["c", "s.yaml"]⟩, "[")], [], []⟩, .empty, behind, ⟨0⟩⟩, []⟩

/-- The settings of that session. -/
def Example.settings : Settings :=
  ⟨⟨"/", ["c"]⟩, "s.yaml", none, "", "", ⟨"/", ["logs"]⟩, 5, 3⟩

theorem Example.canHold_session : session.workspace.tree.CanHold settings.segmentsPath := by
  have hpath : settings.segmentsPath = ⟨"/", ["c", "s.yaml"]⟩ := by decide +kernel
  rw [hpath]
  exact ⟨_, _, rfl, rfl⟩

open Example in
/-- For a static segment and one whose rules came from data with an older operator name, over a file with
something else in it. -/
theorem segments_after_saveSegments_static_and_dynamic :
    let rules : Group := ⟨"g", .and, [⟨"c", "lead_score", .known .isNotEmpty, .int 5, .null⟩], []⟩
    let stored : List Segment := [⟨"s", "VIP: #1", "", .static ["a@x.org", "yes"], 2, default, behind⟩,
      ⟨"d", "null", "a\nb", .dynamic (some rules), 7, behind, behind⟩]
    ((∀ t ∈ stored, t.Accepted) ∧ (∀ t ∈ stored, t.IsShallow) ∧ Yaml.Keeps (segmentsDocument stored) ∧
        session.workspace.tree.CanHold settings.segmentsPath) ∧
      ∃ s' : Session, (saveSegments settings stored).run.run session = (.ok (), s') ∧
        (segments settings).run.run s' = (.ok stored, s') := by
  intro rules stored
  let condition : Value := .mapping [(.text "id", .text "c"), (.text "field", .text "lead_score"),
    (.text "operator", .text "exists"), (.text "value", .int 5)]
  let data : Value := .mapping [(.text "id", .text "g"), (.text "conditions", .collection .list [condition])]
  have hdata : data.IsJson := by simp [data, condition, Value.IsJsonWith, Value.EntriesJson, Value.AllJson]
  have hbuilt : rules.Built := @Group.Built.decoded _ data ⟨0⟩ rules (.inl hdata) rfl
  have hnaive : Calendar.DateTime.IsToMinute default := fun o ho => by cases ho
  have hbehind : behind.IsToMinute := fun o ho => by cases ho; decide
  have haccepted : ∀ t ∈ stored, t.Accepted := by
    rw [List.forall_mem_cons, List.forall_mem_singleton]
    exact ⟨⟨by decide, by rintro _ ⟨⟩, hnaive, hbehind⟩, ⟨by decide, by rintro _ ⟨⟩; exact hbuilt, hbehind, hbehind⟩⟩
  have hshallow : ∀ t ∈ stored, t.IsShallow := by
    rw [List.forall_mem_cons, List.forall_mem_singleton]
    refine ⟨by rintro _ ⟨⟩, ?_⟩
    rintro _ ⟨⟩
    exact ⟨by decide, by decide⟩
  have hkeeps : Yaml.Keeps (segmentsDocument stored) := keeps_of_gives (by decide +kernel) (by decide +kernel)
  obtain ⟨s', hsaved, hloaded⟩ := segments_after_saveSegments haccepted hshallow hkeeps canHold_session
  exact ⟨⟨haccepted, hshallow, hkeeps, canHold_session⟩, s', hsaved, hloaded s' rfl⟩

/-- A static segment with a count. -/
def Example.counted (n : Nat) : Segment :=
  ⟨"s", "Team", "", .static [], n, default, default⟩

/-- A count without a text keeps the segment from being written. -/
theorem Example.segmentsText_counted {n : Nat} (h : ¬ Integer.HasText n) :
    segmentsText [counted n] = .error .integerTooLong := by
  have hlong : Yaml.Emitter.hasTexts (segmentsDocument [counted n]) = false := by
    simp [segmentsDocument, Segment.encode, counted, Yaml.Emitter.hasTexts, Yaml.Emitter.allHaveTexts,
      Yaml.Emitter.membersHaveTexts, h]
  have hdata : segmentsData [counted n] = .ok (segmentsDocument [counted n]) := rfl
  have hunwritten : Yaml.Writer.text (segmentsDocument [counted n]) = .error .integerTooLong :=
    if_neg (Bool.eq_false_iff.1 hlong)
  simp only [segmentsText, hdata, bind, Except.bind, hunwritten]

open Example in
/-- A segment with a count of 4301 digits, and one whose rules lie two hundred and fifty-six deep in each other, are
accepted, but they are not stored. -/
theorem not_saved_huge_and_deep :
    let huge : Segment := counted (Nat.pow 10 Integer.maxDigits)
    let deep : Segment := ⟨"d", "Deep", "", .dynamic (some (Group.tower 255)), 0, default, default⟩
    session.workspace.tree.CanHold settings.segmentsPath ∧
      ∀ t ∈ [huge, deep], t.Accepted ∧ (∀ g ∈ t.rules, g.EachCondition Condition.IsFinite) ∧
        ∃ fault w, (saveSegments settings [t]).run.run session =
          (.error (.escape (.unwritten fault)), { session with workspace := w }) := by
  intro huge deep
  have hnaive : Calendar.DateTime.IsToMinute default := fun o ho => by cases ho
  have hhuge : huge.Accepted := ⟨by decide, by rintro _ ⟨⟩, hnaive, hnaive⟩
  have hdeep : deep.Accepted := ⟨by decide, by rintro _ ⟨⟩; exact Group.built_tower 255, hnaive, hnaive⟩
  refine ⟨canHold_session, ?_⟩
  rw [List.forall_mem_cons, List.forall_mem_singleton]
  refine ⟨⟨hhuge, by rintro _ ⟨⟩, .integerTooLong, saveSegments_of_error canHold_session ?_⟩,
    hdeep, ?_, .nestedTooDeep, saveSegments_of_error canHold_session ?_⟩
  · exact segmentsText_counted Value.not_hasText_longest
  · rintro _ ⟨⟩
    exact Group.eachCondition_tower ⟨trivial, trivial⟩ 255
  · have hwritten : Limits.written < (Group.tower 255).depth := by
      rw [Group.depth_tower]
      decide
    have htoo : [deep].any (·.isTooDeep) = true := by
      simp [Segment.isTooDeep, Segment.rules, deep, hwritten]
    rw [segmentsText, segmentsData, if_pos htoo]
    rfl

end Console

end Segmentation
