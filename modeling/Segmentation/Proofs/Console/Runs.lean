import Segmentation.Proofs.Console.Addressed
import Segmentation.Proofs.Console.Segments
import Segmentation.Proofs.Console.Example
import Segmentation.Proofs.Console.Logging

/-!
# Runs of commands

* `InOrder`: the file of segments is the example or holds segments that commands keep in order.
* `Sited`, `Fits`: what a command is run with.
* `Does.keeps`: a command keeps the file in order, and one that is stopped leaves it alone, unless what it prints
  cannot be drawn.
* `Reached`, `Reached.run_sound`: so does every run of commands that starts without the file, if the writer keeps
  segments whose texts have no next-line character.
* `careful`, `not_keeps_nextLine`: a writer that keeps such segments, and data that the usual one loses.
* `Command.run_bracket`: a command that is stopped when it has stored a segment.
-/

namespace Segmentation.Console

open Storage

section

variable [Yaml.Writer]

/-- The file at the place `p` can be read. It is the example, or it holds segments that are kept in order and have no
more members than the example has and `added` addresses. The journal does not write to it. -/
structure InOrder (p : Path) (added : Nat) (w : Workspace) : Prop where
  journal : w.journal.WritesIn fun q => w.tree.place q ≠ p
  file : ∀ text, w.tree.files.lookup p = some text → w.tree.barriers.lookup p = none ∧
    (text = exampleSegments ∨ ∃ stored, segmentsText stored = .ok text ∧ Segment.Kept w.ids (added + 1) stored)

end

namespace Command

/-- How many addresses the command adds at most. -/
def added : Command → Nat
  | addMembers _ emails => emails.length
  | _ => 0

/-- The texts that the command can store. -/
def texts : Command → List String
  | create name description _ => [name, description]
  | addMembers _ emails => emails
  | _ => []

end Command

/-- The file at `p` is the file of segments of the workspace, and no log file lies there. The clock is naive or whole
minutes away from UTC. No file has more contacts than a number can say, and the first field of the catalogue has no
next-line character in its key. -/
structure Sited (p : Path) (w : Workspace) : Prop where
  place : ∀ given, w.given = .ok given → w.tree.place given.segmentsPath = p
  logs : ∀ given, w.given = .ok given → (LogFiles.ofSettings given).LieIn fun q => w.tree.place q ≠ p
  now : w.now.IsToMinute
  contacts : ∀ place text path among, w.tree.files.lookup place = some text →
    readContacts path (.file text) = .ok among → Integer.HasText among.length
  field : ∀ given c, w.given = .ok given → w.catalogued given = .ok c → Text.HasNoNextLine c.firstField.key

/-- Moreover, a number can say how many members there are after `added` addresses and those that the command adds.
What the command can store has no next-line character, and a new segment is not named like an identifier that is still
to be given. -/
structure Fits (p : Path) (added : Nat) (c : Command) (w : Workspace) : Prop extends Sited p w where
  count : Integer.HasText (added + c.added + 1 : Nat)
  texts : ∀ text ∈ c.texts, Text.HasNoNextLine text
  name : ∀ name description type, c = .create name description type →
    ∀ k, w.ids.next ≤ k → name ≠ IdSupply.text k

variable {p : Path} {added : Nat} {c : Command} {w w₁ w' : Workspace} {given : Settings} {stored : List Segment}

theorem spares_of_sameFiles (h : w.journal.WritesIn fun q => w.tree.place q ≠ p) (hsame : SameFiles w w') :
    w.Spares p w' := by
  obtain ⟨tree, hwork, hfiles, hbarriers, rfl⟩ := hsame
  exact ⟨congrArg (List.lookup p) hfiles, fun hclear => (congrArg (List.lookup p) hbarriers).trans hclear, hwork, rfl,
    Nat.le_refl _, h⟩

section

variable [Yaml.Writer]

namespace InOrder

theorem mono (h : InOrder p added w) (more : Nat) : InOrder p (added + more) w where
  journal := h.journal
  file text htext := (h.file text htext).imp_right fun hheld => hheld.imp_right fun ⟨stored, heq, hkept⟩ =>
    ⟨stored, heq, hkept.mono le_rfl (by omega)⟩

theorem of_spares (h : InOrder p added w) (hw : w.Spares p w') : InOrder p added w' where
  journal := by simpa only [hw.place] using hw.journal
  file text htext := (h.file text (hw.file ▸ htext)).imp hw.barrier fun hheld =>
    hheld.imp_right fun ⟨stored, heq, hkept⟩ => ⟨stored, heq, hkept.mono hw.ids le_rfl⟩

end InOrder

/-- Segments that are kept in order have a text, if the writer keeps plain ones, and are read from it as they were. -/
theorem exists_text_of_kept (hwriter : KeepsSegments) {ids : IdSupply} {bound : Nat}
    (hkept : Segment.Kept ids bound stored) : ∃ text, segmentsText stored = .ok text ∧
      ∀ now, readSegments now (.file text) = pure (.ok stored) := by
  have hstorable : ∀ s ∈ stored, s.Storable := fun s hs => (hkept.keepable s hs).storable
  have hkeeps := hwriter stored fun s hs => (hkept.keepable s hs).plain
  obtain ⟨text, htext, -⟩ := exists_segmentsText hstorable hkeeps
  exact ⟨text, htext, readSegments_text hstorable hkeeps htext⟩

namespace InOrder

variable (hwriter : KeepsSegments)

include hwriter in
/-- What is loaded is in order, and the supply has gone on. -/
theorem loading (h : InOrder p added w) (hplace : w.tree.place given.segmentsPath = p) (hnow : w.now.IsToMinute) :
    w.ids.next ≤ (w.loading given).2.next ∧
      ∀ stored, (w.loading given).1 = .ok stored → Segment.Kept (w.loading given).2 (added + 1) stored := by
  unfold Workspace.loading
  cases hfound : (w.tree.entry given.segmentsPath).text with
  | error fault =>
    rcases readSegments_of_error hfound w.now with hread | hread <;> rw [hread] <;>
      refine ⟨le_rfl, fun stored hstored => ?_⟩ <;> cases hstored
    exact .nil
  | ok text =>
    rw [Entry.text_eq_ok] at hfound
    have hlookup := (FileTree.entry_eq_file.1 hfound).1
    rw [hplace] at hlookup
    rw [hfound]
    rcases (h.file text hlookup).2 with rfl | ⟨stored, htext, hkept⟩
    · rw [Example.readSegments_exampleSegments]
      refine ⟨by simp, fun stored hstored => ?_⟩
      cases hstored
      exact (Example.kept_segments hnow _).mono le_rfl (by omega)
    · obtain ⟨text', htext', hread⟩ := exists_text_of_kept hwriter hkept
      cases htext.symm.trans htext'
      rw [hread]
      refine ⟨le_rfl, fun stored' hstored => ?_⟩
      cases hstored
      exact hkept

include hwriter in
theorem spares_of_looked (h : InOrder p added w) (hfits : Fits p added c w) (hw : Looked w w') : w.Spares p w' := by
  obtain ⟨ids, hids, rfl⟩ := hw
  refine ⟨rfl, id, rfl, rfl, ?_, h.journal⟩
  cases hids with
  | none => exact le_rfl
  | loaded hgiven n =>
    exact (h.loading hwriter (hfits.place _ hgiven) hfits.now).1.trans (Nat.le_add_right _ n)

end InOrder

/-- Segments in order are stored where they belong. -/
theorem Stored.inOrder (hw : Stored given stored w w') (hjournal : w.journal.WritesIn fun q => w.tree.place q ≠ p)
    (hplace : w.tree.place given.segmentsPath = p) (hkept : Segment.Kept w.ids (added + 1) stored) :
    InOrder p added w' := by
  obtain ⟨written, hwrittenText, tree, tree', hmade, hwritten, rfl⟩ := hw
  have hwork : tree'.work = w.tree.work := (FileTree.work_write hwritten).trans (FileTree.work_makeDirectory hmade)
  have hsame : ∀ q, tree'.place q = w.tree.place q := fun q => by rw [FileTree.place, FileTree.place, hwork]
  have hthere : p = tree.place given.segmentsPath := by
    rw [← hplace, FileTree.place, FileTree.place, FileTree.work_makeDirectory hmade]
  refine ⟨by simpa only [hsame] using hjournal, fun text htext => ⟨?_, .inr ⟨stored, ?_, hkept⟩⟩⟩
  · change tree'.barriers.lookup p = none
    rw [FileTree.barriers_write hwritten, hthere]
    exact FileTree.lookup_filter_self _ _
  · change tree'.files.lookup p = some text at htext
    rw [FileTree.lookup_write hwritten, if_pos hthere] at htext
    cases htext
    exact hwrittenText

/-- Segments in order that cannot be stored leave the file alone. -/
theorem Unsaved.spares (hwriter : KeepsSegments) (hw : Unsaved given stored w w')
    (hjournal : w.journal.WritesIn fun q => w.tree.place q ≠ p)
    (hkept : Segment.Kept w.ids (added + 1) stored) : w.Spares p w' := by
  obtain ⟨text, htext, -⟩ := exists_text_of_kept hwriter hkept
  exact spares_of_sameFiles hjournal (hw.sameFiles htext)

/-- Between `w` and `w'` segments in order were to be stored in the file at `p`, which had been spared until then. -/
def KeepsOrder (outcome : Outcome) (p : Path) (added : Nat) (w w' : Workspace) : Prop :=
  ∃ w₁ given stored, w.Spares p w₁ ∧ w₁.tree.place given.segmentsPath = p ∧
    Segment.Kept w₁.ids (added + 1) stored ∧ outcome given stored w₁ w'

theorem KeepsOrder.inOrder (h : KeepsOrder Stored p added w w') : InOrder p added w' := by
  obtain ⟨w₁, given, stored, hspares, hplace, hkept, hstored⟩ := h
  refine hstored.inOrder ?_ hplace hkept
  simpa only [hspares.place] using hspares.journal

/-- What a command leaves that is stopped: the file as it was, or in order, if something could not be drawn. -/
def Leaves (p : Path) (added : Nat) (w : Workspace) (stop : Stop) (w' : Workspace) : Prop :=
  w.Spares p w' ∨ stop.IsUndrawn ∧ InOrder p added w'

section

variable (hwriter : KeepsSegments)

include hwriter

theorem KeepsOrder.spares (h : KeepsOrder Unsaved p added w w') : w.Spares p w' := by
  obtain ⟨w₁, given, stored, hspares, -, hkept, hunsaved⟩ := h
  refine hspares.trans (hunsaved.spares hwriter ?_ hkept)
  simpa only [hspares.place] using hspares.journal

/-! ## Single commands -/

/-- Loading draws identifiers, and the loaded segments are in order. -/
theorem InOrder.exists_loaded (h : InOrder p added w) (hfits : Fits p added c w) (hgiven : w.given = .ok given)
    (hloaded : (w.loading given).1 = .ok stored) (n : Nat) :
    w.Spares p { w with ids := ⟨(w.loading given).2.next + n⟩ } ∧ w.tree.place given.segmentsPath = p ∧
      Segment.Kept (w.loading given).2 (added + 1) stored :=
  have hplace := hfits.place given hgiven
  ⟨h.spares_of_looked hwriter hfits (.drawn hgiven n), hplace, (h.loading hwriter hplace hfits.now).2 stored hloaded⟩

variable {outcome : Outcome} {name : String}

theorem Changed.keeps (h : InOrder p added w) (hfits : Fits p added c w)
    {change : Segment → Calendar.DateTime → Except Segment.MemberError Segment}
    (hchange : ∀ s t, s.Keepable → s.members.length ≤ added + 1 → change s w.now = .ok t →
      s.Refreshes t ∧ t.Keepable ∧ t.members.length ≤ added + c.added + 1)
    (hw : Changed outcome w name change w') : KeepsOrder outcome p (added + c.added) w w' := by
  obtain ⟨given, stored, found, updated, hopens, hupdated, hleft⟩ := hw
  obtain ⟨hspares, hplace, hkept⟩ := h.exists_loaded hwriter hfits hopens.settings hopens.loaded 0
  have hfound := Segment.mem_of_find? hopens.addressed
  obtain ⟨hrefreshes, hs, hmembers⟩ := hchange found updated (hkept.keepable found hfound)
    (hkept.members found hfound) hupdated
  have hmore : Segment.Kept (w.loading given).2 (added + c.added + 1) stored := hkept.mono le_rfl (by omega)
  exact ⟨_, given, _, hspares, hplace, hmore.replace hfound hrefreshes.id hrefreshes.name hs hmembers, hleft⟩

theorem Created.keeps {description : String} {type : SegmentType} (h : InOrder p added w)
    (hfits : Fits p added (.create name description type) w)
    (hw : Created outcome w name description type w') : KeepsOrder outcome p added w w' := by
  obtain ⟨given, stored, catalogue, s, hgiven, hcatalogue, hloaded, hnew, hcreated, hleft⟩ := hw
  obtain ⟨hspares, hplace, hkept⟩ := h.exists_loaded hwriter hfits hgiven hloaded 3
  have hnext := (h.loading hwriter hplace hfits.now).1
  obtain ⟨hs, hid, rfl, hmembers⟩ := Segment.keepable_create (Text.hasNoNextLine_id _) (Text.hasNoNextLine_id _)
    (Text.hasNoNextLine_id _) (hfits.texts name (by simp [Command.texts]))
    (hfits.texts description (by simp [Command.texts])) (hfits.field given catalogue hgiven hcatalogue) hfits.now
    hcreated
  refine ⟨_, given, _, hspares, hplace, ?_, hleft⟩
  refine hkept.concat hid (by simp) hnew (fun k hk => ?_) hs (by simp [hmembers])
  exact hfits.name _ _ _ rfl k (hnext.trans hk)

/-- A command that stores segments in order at its end keeps the file in order. -/
theorem Does.keeps_of {x : Procedure Unit} {A : Outcome → Workspace → Prop} (h : InOrder p added w)
    (hfits : Fits p added c w) {bound : Nat} (hA : ∀ outcome w', A outcome w' → KeepsOrder outcome p bound w w')
    (hx : Does (· = w) x (fun _ => A Stored) fun stop w' => Looked w w' ∨ A Unsaved w' ∨ stop.IsUndrawn ∧ A Stored w') :
    Does (· = w) x (fun _ => InOrder p bound) (Leaves p bound w) := by
  refine hx.mono (fun _ hw => hw) (fun _ w' hw => (hA _ w' hw).inOrder) ?_
  rintro stop w' (hlooked | hunsaved | ⟨hundrawn, hstored⟩)
  · exact .inl (h.spares_of_looked hwriter hfits hlooked)
  · exact .inl ((hA _ w' hunsaved).spares hwriter)
  · exact .inr ⟨hundrawn, (hA _ w' hstored).inOrder⟩

theorem Does.keeps_of_looked [Terminal] [Wording] (h : InOrder p added w) (hfits : Fits p added c w)
    (hlooks : Does (· = w) c.action (fun _ => Looked w) fun _ => Looked w) :
    Does (· = w) c.action (fun _ => InOrder p (added + c.added)) (Leaves p (added + c.added) w) :=
  hlooks.mono (fun _ hw => hw) (fun _ _ hw => (h.of_spares (h.spares_of_looked hwriter hfits hw)).mono _)
    fun _ _ hw => .inl (h.spares_of_looked hwriter hfits hw)

omit hwriter in
theorem SetUp.inOrder (h : InOrder p added w) (hw : SetUp w w') : InOrder p added w' := by
  rcases hw with hsame | ⟨w₁, path, tree, hsame, -, hwritten, rfl⟩
  · exact h.of_spares (spares_of_sameFiles h.journal hsame)
  · have h₁ := h.of_spares (spares_of_sameFiles h.journal hsame)
    have hplace : ∀ q, tree.place q = w₁.tree.place q := fun q => by
      rw [FileTree.place, FileTree.place, FileTree.work_write hwritten]
    refine ⟨by simpa only [hplace] using h₁.journal, fun text htext => ?_⟩
    change tree.files.lookup p = some text at htext
    rw [FileTree.lookup_write hwritten] at htext
    split at htext
    · rename_i hp
      refine ⟨?_, .inl (Option.some.inj htext).symm⟩
      change tree.barriers.lookup p = none
      rw [FileTree.barriers_write hwritten, hp]
      exact FileTree.lookup_filter_self _ _
    · exact (h₁.file text htext).imp_left (FileTree.barrier_write hwritten)

omit hwriter in
theorem Does.init_keeps [Terminal] {configDir : Option Path} (h : InOrder p added w) :
    Does (· = w) (Console.init configDir) (fun _ => InOrder p added) (Leaves p added w) := by
  refine init.mono (fun _ hw => hw) (fun _ _ hw => hw.inOrder h) ?_
  rintro stop w' (hsame | ⟨hundrawn, hsetup⟩)
  · exact .inl (spares_of_sameFiles h.journal hsame)
  · exact .inr ⟨hundrawn, hsetup.inOrder h⟩

omit [Yaml.Writer] hwriter in
/-- An empty file holds no list of contacts. -/
theorem readContacts_empty (path : Path) (among : List Value) : readContacts path (.file "") ≠ .ok among := by
  have hyaml : ofYaml "" = .ok .null := rfl
  have hjson : ofJson "" = .error (.json .invalid) := rfl
  intro h
  unfold readContacts at h
  obtain ⟨_, ⟨⟩, h⟩ := bind_eq_ok.1 h
  split at h
  · rw [hyaml] at h
    cases h
  · rw [hjson] at h
    cases h

omit [Yaml.Writer] hwriter in
/-- Contacts come from a file that was there before log files were opened. -/
theorem hasText_of_readContacts (hfits : Fits p added c w) {w₀ : Workspace} (htree : w₀.tree = w.tree)
    (hopens : Workspace.OpensLogs p w₀ w') {path : Path} {among : List Value}
    (hread : readContacts path (w'.tree.entry path) = .ok among) : Integer.HasText among.length := by
  obtain ⟨text, htext, -⟩ := bind_eq_ok.1 hread
  rw [Entry.text_eq_ok] at htext
  rw [htext] at hread
  rcases hopens.texts _ text (FileTree.entry_eq_file.1 htext).1 with hthere | rfl
  · rw [htree] at hthere
    exact hfits.contacts _ text path among hthere hread
  · exact absurd hread (readContacts_empty path among)

/-- The workspace in which the logs of an evaluation are set up: as it was, once the segments have been loaded. -/
theorem exists_loaded (h : InOrder p added w) (hfits : Fits p added c w) :
    ∃ w₀, w.Spares p w₀ ∧ w₀.tree = w.tree ∧
      ∀ given, w.given = .ok given → w₀ = { w with ids := (w.loading given).2 } := by
  cases hgiven : w.given with
  | error e => exact ⟨w, .refl h.journal, rfl, nofun⟩
  | ok given =>
    refine ⟨_, h.spares_of_looked hwriter hfits (.drawn hgiven 0), rfl, fun given' hsame => ?_⟩
    cases hsame
    rfl

omit [Yaml.Writer] hwriter in
/-- The logs of an evaluation leave the file alone. -/
theorem logsKeep_of_fits (hfits : Fits p added c w) (hgiven : w.given = .ok given) {w₀ : Workspace}
    (hspares : w.Spares p w₀) (htree : w₀.tree = w.tree) (hw₀ : w₀ = { w with ids := (w.loading given).2 }) :
    LogsKeep given { w with ids := (w.loading given).2 }
      (fun w' => w₀.OpensLogs p w' ∧ w'.journal.files.isSome) (w₀.OpensLogs p) (w₀.Spares p)
        fun among => Integer.HasText among.length := by
  have hlie := hfits.logs given hgiven
  rw [← htree] at hlie
  refine ⟨(Triple.setUpJournal hlie).mono ?_ (fun _ _ hw => hw) fun _ _ hw => hw.toSpares,
    fun segment => (Triple.segmentLogger segment).mono (fun _ hw => hw) (fun _ _ hw => hw)
      fun _ _ hw => hw.toSpares, Triple.log, fun _ hw => hw.toSpares,
    fun w' path among hw hread => hasText_of_readContacts hfits htree hw hread⟩
  intro w' hw'
  have hjournal := hspares.journal
  rw [← htree] at hjournal
  obtain rfl := hw'.trans hw₀.symm
  exact ⟨.refl hjournal, fun _ _ ht => .inl ht⟩

omit [Yaml.Writer] hwriter in
/-- A segment with a new count may stand for what was evaluated. -/
theorem kept_withContactCount {ids : IdSupply} (hkept : Segment.Kept ids (added + 1) stored) {found : Segment}
    (hfound : found ∈ stored) {among : List Value} {evaluator : Evaluator} {r : Resolution}
    {now : Calendar.DateTime} (hroom : Integer.HasText (added + 1 : Nat)) (hamong : Integer.HasText among.length)
    (hr : (found.resolve among evaluator).1 = .ok r) (hnow : now.IsToMinute) :
    Segment.Kept ids (added + 1) (Segment.replace stored (found.withContactCount r.total now)) := by
  have hmembers := hkept.members found hfound
  have hcount : Integer.HasText r.total := by
    have htotal := Segment.total_resolve_le hr
    rcases le_total found.members.length among.length with hle | hle
    · exact hamong.of_le (by omega)
    · exact hroom.of_le (by omega)
  have hrefreshes := Segment.refreshes_withContactCount found r.total now
  exact hkept.replace hfound hrefreshes.id hrefreshes.name
    ((hkept.keepable found hfound).withContactCount hcount hnow) hmembers

/-- What an evaluation stores is in order. -/
theorem Resolved.keeps (h : InOrder p added w) (hfits : Fits p added c w) {w₀ : Workspace}
    (hspares₀ : w.Spares p w₀)
    (hw₀ : ∀ given, w.given = .ok given → w₀ = { w with ids := (w.loading given).2 })
    (hw : Resolved outcome w name true (w₀.Spares p) (fun among => Integer.HasText among.length) w') :
    KeepsOrder outcome p added w w' := by
  obtain ⟨given, stored, found, w₁, hopens, hspares₁, w₂, among, evaluator, r, hw₂, hamong, hr, hleft⟩ := hw
  obtain ⟨-, hplace, hkept⟩ := h.exists_loaded hwriter hfits hopens.settings hopens.loaded 0
  have hw₁ := hspares₀.trans hspares₁
  have hnow : w₂.now.IsToMinute := (hspares₀.trans hw₂).now ▸ hfits.now
  have hids : (w.loading given).2.next ≤ w₁.ids.next := by
    have hnext := hspares₁.ids
    rwa [hw₀ given hopens.settings] at hnext
  have hroom : Integer.HasText (added + 1 : Nat) := hfits.count.of_le (by omega)
  have hkept' := kept_withContactCount hkept (Segment.mem_of_find? hopens.addressed) hroom hamong hr hnow
  exact ⟨w₁, given, _, hw₁, (hw₁.place _).trans hplace, hkept'.mono hids le_rfl, hleft⟩

theorem Does.evaluate_keeps [Terminal] [Wording] {contactsPath : Option Path} {limit : Int} {save : Bool}
    (h : InOrder p added w) (hfits : Fits p added (.evaluate name contactsPath limit save) w) :
    Does (· = w) (Console.evaluate name contactsPath limit save) (fun _ => InOrder p added) (Leaves p added w) := by
  obtain ⟨w₀, hspares₀, htree, hw₀⟩ := exists_loaded hwriter h hfits
  have hlogs := fun given hgiven => logsKeep_of_fits hfits hgiven hspares₀ htree (hw₀ given hgiven)
  have hnothing : ∀ outcome w', Resolved outcome w name false (w₀.Spares p)
      (fun among => Integer.HasText among.length) w' → w.Spares p w' := by
    rintro outcome w' ⟨given, stored, found, w₁, -, hspares₁, rfl⟩
    exact hspares₀.trans hspares₁
  refine (evaluate hlogs).mono (fun _ hw => hw) (fun _ w' hw' => ?_) ?_
  · cases save with
    | false => exact h.of_spares (hnothing _ w' hw')
    | true => exact (hw'.keeps hwriter h hfits hspares₀ hw₀).inOrder
  · rintro stop w' (hlooked | hwritten | hunsaved | ⟨hundrawn, hstored⟩)
    · exact .inl (h.spares_of_looked hwriter hfits hlooked)
    · exact .inl (hspares₀.trans hwritten)
    · cases save with
      | false => exact .inl (hnothing _ w' hunsaved)
      | true => exact .inl ((hunsaved.keeps hwriter h hfits hspares₀ hw₀).spares hwriter)
    · cases save with
      | false => exact .inl (hnothing _ w' hstored)
      | true => exact .inr ⟨hundrawn, (hstored.keeps hwriter h hfits hspares₀ hw₀).inOrder⟩

variable [Terminal] [Wording]

/-- A command keeps the file in order. One that is stopped does not touch it, unless something could not be drawn. -/
theorem Does.keeps (h : InOrder p added w) (hfits : Fits p added c w) :
    Does (· = w) c.action (fun _ => InOrder p (added + c.added)) (Leaves p (added + c.added) w) := by
  cases c with
  | version => exact keeps_of_looked hwriter h hfits version
  | fields => exact keeps_of_looked hwriter h hfits fields
  | operators type => exact keeps_of_looked hwriter h hfits operators
  | list => exact keeps_of_looked hwriter h hfits list
  | display name => exact keeps_of_looked hwriter h hfits display
  | validate chosen => exact keeps_of_looked hwriter h hfits validate
  | init configDir => exact init_keeps h
  | evaluate name contacts limit save => exact evaluate_keeps hwriter h hfits
  | create name description type =>
    exact keeps_of hwriter (A := fun outcome => Created outcome w name description type) h hfits
      (fun _ _ hw => hw.keeps hwriter h hfits) create
  | addMembers name emails =>
    refine keeps_of hwriter (A := fun outcome => Changed outcome w name fun s now => s.addMembers emails now) h hfits
      (fun _ _ hw => hw.keeps hwriter h hfits fun s t hs hmembers hadd => ?_) (changeMembers_say _)
    have hcount : Integer.HasText (s.members.length + emails.length : Nat) :=
      hfits.count.of_le (by simp only [Command.added]; omega)
    have hemails : ∀ x ∈ emails, Text.HasNoNextLine x := hfits.texts
    obtain ⟨ht, hlength⟩ := Segment.keepable_addMembers hs hfits.now hemails hcount hadd
    exact ⟨Segment.refreshes_of_addMembers hadd, ht, by simp only [Command.added]; omega⟩
  | removeMembers name emails =>
    refine keeps_of hwriter (A := fun outcome => Changed outcome w name fun s now => s.removeMembers emails now) h
      hfits (fun _ _ hw => hw.keeps hwriter h hfits fun s t hs hmembers hremove => ?_) (changeMembers_say _)
    have hcount : Integer.HasText s.members.length := hfits.count.of_le (by omega)
    obtain ⟨ht, hlength⟩ := Segment.keepable_removeMembers hs hfits.now hcount hremove
    exact ⟨Segment.refreshes_of_removeMembers hremove, ht, by omega⟩

end

/-! ## Runs -/

/-- How many addresses the command line adds at most. -/
def addedBy (words : List String) : Nat :=
  match readCommand words with
  | .ok c => c.added
  | .error _ => 0

variable [Terminal] [Wording]

/-- A command line keeps the file in order. One that ends with another exit code than 0 does not touch it, unless
something could not be drawn. -/
theorem InOrder.run (hwriter : KeepsSegments) {words : List String} (h : InOrder p added w)
    (hfits : ∀ c, readCommand words = .ok c → Fits p added c w) :
    InOrder p (added + addedBy words) (Console.run words w).2 ∧
      ((Console.run words w).1.code ≠ 0 → (∀ printed, (Console.run words w).1.escape ≠ some (.undrawn printed)) →
        (Console.run words w).2.tree.files.lookup p = w.tree.files.lookup p) := by
  unfold Console.run addedBy
  cases hread : readCommand words with
  | error problem => cases problem <;> exact ⟨h, fun _ _ => rfl⟩
  | ok c =>
    obtain ⟨hok, hstopped⟩ := Command.run_of_does (Does.keeps hwriter h (hfits c hread))
    refine ⟨?_, fun hcode hdrawn => ?_⟩
    · by_cases hcode : (c.run w).1.code = 0
      · exact hok hcode
      · obtain ⟨stop, -, hspares | ⟨-, horder⟩⟩ := hstopped hcode
        · exact (h.of_spares hspares).mono _
        · exact horder
    · obtain ⟨stop, hescape, hspares | ⟨⟨printed, rfl⟩, -⟩⟩ := hstopped hcode
      · exact hspares.file
      · exact absurd hescape.symm (hdrawn printed)

/-- What may happen between two commands: identifiers are drawn, time passes, and files change, but not the one
at `p`. The next command runs on with the journal, or it runs in a program of its own. -/
structure Waits (p : Path) (w w' : Workspace) : Prop where
  file : w'.tree.files.lookup p = w.tree.files.lookup p
  barrier : w'.tree.barriers.lookup p = w.tree.barriers.lookup p
  ids : w.ids.next ≤ w'.ids.next
  journal : w'.journal = .empty ∨ w'.journal = w.journal ∧ w'.tree.work = w.tree.work

/-- What a run of command lines can reach that starts without a file of segments, and the number of addresses that
they have added at most. -/
inductive Reached (p : Path) : Nat → Workspace → Prop where
  | start {w : Workspace} (hfile : w.tree.files.lookup p = none) (hjournal : w.journal = .empty) : Reached p 0 w
  | run {added : Nat} {w : Workspace} {words : List String} (h : Reached p added w)
      (hfits : ∀ c, readCommand words = .ok c → Fits p added c w) :
      Reached p (added + addedBy words) (Console.run words w).2
  | wait {added : Nat} {w w' : Workspace} (h : Reached p added w) (hwaits : Waits p w w') : Reached p added w'

omit [Terminal] [Wording] in
theorem InOrder.wait (h : InOrder p added w) (hwaits : Waits p w w') : InOrder p added w' where
  journal := by
    rcases hwaits.journal with hempty | ⟨hsame, hwork⟩
    · rw [hempty]
      exact Journal.writesIn_empty
    · have hplace : ∀ q, w'.tree.place q = w.tree.place q := fun q => by
        rw [FileTree.place, FileTree.place, hwork]
      simpa only [hsame, hplace] using h.journal
  file text htext := (h.file text (hwaits.file ▸ htext)).imp hwaits.barrier.trans fun hheld =>
    hheld.imp_right fun ⟨stored, heq, hkept⟩ => ⟨stored, heq, hkept.mono hwaits.ids le_rfl⟩

theorem Reached.inOrder (hwriter : KeepsSegments) (h : Reached p added w) : InOrder p added w := by
  induction h with
  | start hfile hjournal =>
    refine ⟨hjournal ▸ Journal.writesIn_empty, fun text htext => ?_⟩
    rw [hfile] at htext
    cases htext
  | run h hfits ih => exact (ih.run hwriter hfits).1
  | wait h hwaits ih => exact ih.wait hwaits

end

/-- The file at `p`, if it is the file of segments of the workspace and there is one, can be loaded, and its segments
are found by their own identifiers and names. -/
def LoadsSound (p : Path) (w : Workspace) : Prop :=
  ∀ given, w.given = .ok given → w.tree.place given.segmentsPath = p →
    ∀ text, w.tree.files.lookup p = some text → ∃ stored, (w.loading given).1 = .ok stored ∧ Segment.Sound stored

theorem InOrder.loadsSound [Yaml.Writer] (hwriter : KeepsSegments) (h : InOrder p added w) : LoadsSound p w := by
  intro given _ hplace text htext
  obtain ⟨hclear, hheld⟩ := h.file text htext
  have hentry : w.tree.entry given.segmentsPath = .file text :=
    FileTree.entry_eq_file.2 ⟨hplace ▸ htext, hplace ▸ hclear⟩
  unfold Workspace.loading
  rw [hentry]
  rcases hheld with rfl | ⟨stored, hstored, hkept⟩
  · rw [Example.readSegments_exampleSegments]
    exact ⟨_, rfl, (Example.distinct_segments _ _).sound⟩
  · obtain ⟨text', htext', hread⟩ := exists_text_of_kept hwriter hkept
    cases hstored.symm.trans htext'
    rw [hread]
    exact ⟨stored, rfl, hkept.distinct.sound⟩

/-- However many command lines have been run since there was no file of segments, one more leaves a file, if any, that
can be loaded and whose segments are found by their own identifiers and names. The writer may lose next-line
characters only, and no command line has any. Another exit code than 0 means that the file has not been touched,
unless something could not be drawn that was printed. -/
theorem Reached.run_sound [Terminal] [Wording] [Yaml.Writer] (hwriter : KeepsSegments) {words : List String}
    (h : Reached p added w) (hfits : ∀ c, readCommand words = .ok c → Fits p added c w) :
    LoadsSound p (Console.run words w).2 ∧
      ((Console.run words w).1.code ≠ 0 → (∀ printed, (Console.run words w).1.escape ≠ some (.undrawn printed)) →
        (Console.run words w).2.tree.files.lookup p = w.tree.files.lookup p) := by
  obtain ⟨horder, hstopped⟩ := (h.inOrder hwriter).run hwriter hfits
  exact ⟨horder.loadsSound hwriter, hstopped⟩

/-! ## A careful writer -/

mutual

theorem hasTexts_of_readable : (j : Json) → Json.Readable .plain j → Yaml.Emitter.hasTexts j = true
  | .int n, h => by simpa [Yaml.Emitter.hasTexts] using Json.Dialect.admits_plain.1 h
  | .array js, h => allHaveTexts_of_readable js h
  | .object ms, h => membersHaveTexts_of_readable ms h.2
  | .null, _ | .bool _, _ | .float _, _ | .text _, _ => rfl

theorem allHaveTexts_of_readable : (js : List Json) → Json.AllReadable .plain js →
    Yaml.Emitter.allHaveTexts js = true
  | [], _ => rfl
  | j :: js, h => by
    rw [Yaml.Emitter.allHaveTexts, hasTexts_of_readable j h.1, allHaveTexts_of_readable js h.2]
    rfl

theorem membersHaveTexts_of_readable : (ms : List (String × Json)) → Json.MembersReadable .plain ms →
    Yaml.Emitter.membersHaveTexts ms = true
  | [], _ => rfl
  | (_, j) :: ms, h => by
    rw [Yaml.Emitter.membersHaveTexts, hasTexts_of_readable j h.1, membersHaveTexts_of_readable ms h.2]
    rfl

end

/-- A writer that reads again what it has written. Where it does not find its data, it writes canonical text. -/
@[reducible] def careful : Yaml.Writer where
  text j := (Yaml.Writer.text j).map fun text =>
    if (Example.valueOf (Yaml.Emitter.chars j)).toOption.any j.gives then text else Yaml.print j

theorem keepsSegments_careful : @KeepsSegments careful := by
  intro segments hplain
  have hreadable : ∀ s ∈ segments, Json.Readable .plain s.encode := fun s hs => (hplain s hs).readable
  have htexts := hasTexts_of_readable _ (readable_segmentsDocument hreadable)
  have hwritten : Yaml.Writer.text (segmentsDocument segments) =
      .ok (Yaml.Emitter.print (segmentsDocument segments)) := if_pos htexts
  refine ⟨_, congrArg (Except.map _) hwritten, ?_⟩
  dsimp only
  split
  · obtain ⟨_, hprinted, hread⟩ := Example.keeps_of_gives htexts ‹_›
    cases hprinted.symm.trans hwritten
    exact hread
  · exact ofText_print_segments hreadable

/-- A next-line character is written as the end of a line, and read as a blank. -/
theorem not_keeps_nextLine : ¬ Yaml.Keeps (.object [("name", .text "a\x85b")]) := by
  rintro ⟨text, htext, hread⟩
  cases htext
  have hgives : (Example.valueOf (Yaml.Emitter.chars (.object [("name", .text "a\x85b")]))).toOption.any
      (Json.gives (.object [("name", .text "a b")])) = true := by
    decide +kernel
  rw [Example.ofText_print_eq_valueOf] at hread
  rw [hread] at hgives
  have heq := Json.eq_toValue_of_gives _ _ hgives
  simp [Json.toValue, Json.toEntries] at heq

/-- A workspace without files. -/
def vacant : Workspace where
  home := ⟨"/", []⟩
  environment := [("AUDIENCE_BUILDER_CONFIG_DIR", "/")]
  tree := .empty ⟨"/", []⟩
  journal := .empty
  now := default
  ids := ⟨0⟩

/-- Its segments are kept at one place, which is that of no log file. -/
theorem sited_vacant : Sited ⟨"/", ["segments.yaml"]⟩ vacant where
  place given hgiven := by
    have hplaces : vacant.given.toOption.map (fun given => vacant.tree.place given.segmentsPath) =
        some ⟨"/", ["segments.yaml"]⟩ := by
      decide +kernel
    rw [hgiven] at hplaces
    exact Option.some.inj hplaces
  logs given _ := by
    intro segment heq
    have hname := LogFiles.name_place_pathFor (Journal.isSafe_safeName segment) (.ofSettings given) vacant.tree
    rw [heq] at hname
    have hstart : "segments.yaml".toList.head? ≠ some 'a' := by simp
    exact LogFiles.fileName_ne hstart _ hname.symm
  now o ho := absurd ho (Option.not_mem_none o)
  contacts place text path among hnone := by
    cases hnone
  field given c hgiven hc := by
    have hfields : vacant.given.toOption.all fun given => (vacant.catalogued given).toOption.all fun c =>
        decide (Text.HasNoNextLine c.firstField.key) := by
      decide +kernel
    rw [hgiven] at hfields
    simpa [hc, Except.toOption] using hfields

/-- A first segment is created where there is no file. The careful writer does what the other one does. -/
theorem Reached.run_sound_vacant :
    let p : Path := ⟨"/", ["segments.yaml"]⟩
    let words := ["segments", "create", "VIP", "--static"]
    let usual := Console.run words vacant
    letI : Yaml.Writer := careful
    (KeepsSegments ∧ Reached p 0 vacant ∧ ∀ c, readCommand words = .ok c → Fits p 0 c vacant) ∧
      (Console.run words vacant).2.tree.files = usual.2.tree.files ∧
      LoadsSound p (Console.run words vacant).2 := by
  intro p words usual
  have hwords : readCommand words = .ok (.create "VIP" "" .static) := rfl
  have hfits : ∀ c, readCommand words = .ok c → Fits p 0 c vacant := by
    intro c hc
    cases hwords.symm.trans hc
    refine ⟨sited_vacant, Integer.hasText_iff.2 (by decide), by decide, ?_⟩
    rintro _ _ _ ⟨⟩ k -
    exact Example.ne_text_of_length (by decide) k
  let _ : Yaml.Writer := careful
  have hreached : Reached p 0 vacant := .start rfl rfl
  exact ⟨⟨keepsSegments_careful, hreached, hfits⟩, by decide +kernel,
    (hreached.run_sound keepsSegments_careful hfits).1⟩

/-- A name that ends a style which nothing has begun is stored, but it cannot be drawn: the command is stopped, and the
file has changed. -/
theorem Command.run_bracket :
    let p : Path := ⟨"/", ["segments.yaml"]⟩
    let ran := Console.run ["segments", "create", "[/x]", "--static"] vacant
    ran.1.code = 1 ∧ vacant.tree.files.lookup p = none ∧ (ran.2.tree.files.lookup p).isSome = true := by
  decide +kernel

end Segmentation.Console
