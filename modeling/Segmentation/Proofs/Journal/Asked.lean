import Segmentation.Proofs.Journal.Routing
import Segmentation.Proofs.Storage.FileTree
import Segmentation.Proofs.Triple

/-!
# Workspaces whose segments are logged

* `Workspace.Asked`: what can be done with log files: setting them up, resetting them, asking for loggers of
  segments and sending messages, and which segments have been asked for since log files were last set up.
* `Workspace.Keeps`: log files are not set up, or those of the segments that were asked for are open.
* `Triple.keeps_setUpJournal`, `Triple.keeps_segmentLogger`, `Triple.keeps_log`: each step keeps this, whether it
  succeeds or not, and so `Workspace.Asked.keeps` has it for every run.
-/

namespace Segmentation

open Journal Storage

/-- The levels that settings can ask for are not negative. -/
theorem Journal.Level.ofSetting_nonneg (text : String) : 0 ≤ (Level.ofSetting text).number := by
  unfold ofSetting
  cases hnamed : named? (Text.upper text) with
  | none => decide
  | some level =>
    unfold named? at hnamed
    obtain ⟨before, after, heq, -⟩ := List.lookup_eq_some_iff.1 hnamed
    have hmem : (Text.upper text, level) ∈ before ++ (Text.upper text, level) :: after := by simp
    rw [← heq] at hmem
    have hall : ∀ entry ∈ [("NOTSET", notSet), ("DEBUG", debug), ("INFO", info), ("WARNING", warning),
        ("WARN", warning), ("ERROR", error), ("CRITICAL", critical), ("FATAL", critical)],
        0 ≤ entry.2.number := by decide
    exact hall _ hmem

namespace Workspace

/-- Log files are set up, loggers have been prepared for the segments, and all log files that are written to
are open. -/
structure Serves (files : LogFiles) (prepared : List String) (w : Workspace) : Prop where
  level : 0 ≤ files.level.number
  routes : w.journal.Routes files prepared
  error : w.tree.IsOpen (files.pathFor "error")
  logs : ∀ x ∈ w.journal.segmentLoggers, w.tree.IsOpen (files.pathFor (safeName x.1))

/-- Log files are not set up, or they are and loggers have been prepared for no other segments than these. -/
inductive Keeps (asked : List String) (w : Workspace) : Prop where
  | bare (h : w.journal.Bare)
  | serves {files : LogFiles} {prepared : List String} (h : w.Serves files prepared)
      (hasked : ∀ s ∈ prepared, s ∈ asked)

/-- Log files are set up, and the logger of a segment without one has been prepared. -/
def Prepares (files : LogFiles) (asked : List String) (segment : String) (w : Workspace) : Prop :=
  ∃ prepared, w.Serves files prepared ∧ (∀ s ∈ prepared, s ∈ asked) ∧ segment ∈ prepared ∧
    w.journal.segmentLoggers.lookup segment = none

/-- What can be done with log files, from `start` on. The list has the segments whose loggers have been asked
for since log files were last set up or reset; some of them may not have got one. -/
inductive Asked (start : Workspace) : List String → Workspace → Prop where
  | start : Asked start [] start
  | setUp {asked : List String} {w : Workspace} (h : Asked start asked w) (given : Option Settings) :
      Asked start [] ((Work.setUpJournal given).run.run w).2
  | reset {asked : List String} {w : Workspace} (h : Asked start asked w) :
      Asked start [] { w with journal := w.journal.reset }
  | get {asked : List String} {w : Workspace} (h : Asked start asked w) (segment : String) :
      Asked start (segment :: asked) ((Work.segmentLogger segment).run.run w).2
  | message {asked : List String} {w : Workspace} (h : Asked start asked w) (logger : String) (level : Level)
      (message : String) : Asked start asked ((Work.log logger level message).run.run w).2

variable {asked asked' prepared : List String} {files : LogFiles} {w : Workspace}

theorem Serves.append (h : w.Serves files prepared) {p : Path} {text : String} {tree : FileTree}
    (hadded : w.tree.append p text = .ok tree) : Serves files prepared { w with tree } :=
  ⟨h.level, h.routes, h.error.append hadded, fun x hx => (h.logs x hx).append hadded⟩

namespace Keeps

theorem recorded (h : w.Keeps asked) : w.journal.Recorded := by
  cases h with
  | bare h => exact h.toRecorded
  | serves h _ => exact h.routes.toRecorded

theorem mono (h : w.Keeps asked) (hsub : ∀ s ∈ asked, s ∈ asked') : w.Keeps asked' := by
  cases h with
  | bare h => exact .bare h
  | serves h hasked => exact .serves h fun s hs => hsub s (hasked s hs)

theorem append (h : w.Keeps asked) {p : Path} {text : String} {tree : FileTree}
    (hadded : w.tree.append p text = .ok tree) : Keeps asked { w with tree } := by
  cases h with
  | bare h => exact .bare h
  | serves h hasked => exact .serves (h.append hadded) hasked

theorem reset (h : w.Keeps asked) : Keeps [] { w with journal := w.journal.reset } :=
  .bare h.recorded.reset

/-- If log files are set up, loggers are prepared for segments that were asked for. -/
theorem exists_serves (h : w.Keeps asked) (hfiles : w.journal.files = some files) :
    ∃ prepared, w.Serves files prepared ∧ ∀ s ∈ prepared, s ∈ asked := by
  cases h with
  | bare h => cases hfiles.symm.trans h.no_files
  | serves h hasked =>
    cases hfiles.symm.trans h.routes.files_eq
    exact ⟨_, h, hasked⟩

end Keeps

end Workspace

namespace Triple

open Workspace

variable {asked : List String}

/-- Opening the log for errors, once a reset has left nothing. -/
theorem keeps_openErrorLog {files : LogFiles} (hlevel : 0 ≤ files.level.number) :
    Triple (fun w => w.journal.Bare) (do
        Work.changeTree (·.makeDirectory files.directory)
        Work.changeJournal (·.setLevel files.level)
        Work.changeTree (·.append (files.pathFor "error") "")
        Work.changeJournal (·.openErrorLog files)
        return files)
      (fun files w => Keeps [] w ∧ w.journal.files = some files) fun _ => Keeps [] := by
  refine bind (changeTree (R := fun _ w => w.journal.Bare) (fun _ _ hw _ => hw) fun _ _ hw _ => .bare hw)
    fun _ => ?_
  refine bind (changeJournal (R := fun _ w => ∃ j : Journal, j.Bare ∧ w.journal = j.setLevel files.level)
    fun w hw => ⟨w.journal, hw, rfl⟩) fun _ => ?_
  refine bind (changeTree (R := fun _ w => (∃ j : Journal, j.Bare ∧ w.journal = j.setLevel files.level) ∧
    w.tree.IsOpen (files.pathFor "error")) ?_ ?_) fun _ => ?_
  · exact fun w tree hw hadded => ⟨hw, FileTree.isOpen_of_append hadded⟩
  · rintro w fault ⟨j, hj, heq⟩ -
    exact .bare (heq ▸ hj.setLevel files.level)
  refine bind (changeJournal (R := fun _ w => Keeps [] w ∧ w.journal.files = some files) ?_) fun _ =>
    pure fun _ hw => hw
  rintro w ⟨⟨j, hj, heq⟩, hopen⟩
  have hroutes : (w.journal.openErrorLog files).Routes files [] := heq ▸ hj.setUp files
  refine ⟨.serves ⟨hlevel, hroutes, hopen, fun x hx => ?_⟩ fun _ hs => hs, rfl⟩
  cases (hroutes.known x hx).2

/-- Setting up log files leaves them for no segment yet. -/
theorem keeps_setUpJournal (given : Option Settings) :
    Triple (Keeps asked) (Work.setUpJournal given) (fun files w => Keeps [] w ∧ w.journal.files = some files)
      fun _ => Keeps [] := by
  unfold Work.setUpJournal
  refine bind (changeJournal (R := fun _ w => w.journal.Bare) fun w hw => hw.recorded.reset) fun _ => ?_
  cases given with
  | some s =>
    simp only [pure_bind]
    exact keeps_openErrorLog (Level.ofSetting_nonneg s.logLevel)
  | none =>
    refine bind (settings.mono (fun _ hw => hw) (fun _ _ hw => hw.1) fun _ _ hw => .bare hw) fun s => ?_
    exact keeps_openErrorLog (Level.ofSetting_nonneg s.logLevel)

/-- Preparing the logger of a segment, and opening its log. -/
theorem keeps_openSegmentLog (files : LogFiles) (segment : String) :
    Triple (fun w => (∃ prepared, Serves files prepared w ∧ ∀ s ∈ prepared, s ∈ asked) ∧
        w.journal.segmentLoggers.lookup segment = none) (do
        Work.changeJournal (·.prepareSegment files segment)
        Work.changeTree (·.append (files.pathFor (safeName segment)) "")
        Work.changeJournal (·.openSegmentLog files segment)
        return segmentLoggerName segment)
      (fun _ => Keeps (segment :: asked)) fun _ => Keeps (segment :: asked) := by
  refine bind (changeJournal (R := fun _ => Prepares files (segment :: asked) segment) ?_) fun _ => ?_
  · rintro w ⟨⟨prepared, h, hasked⟩, hnone⟩
    refine ⟨prepared ++ [segment], ⟨h.level, h.routes.prepareSegment segment, h.error, h.logs⟩, ?_, by simp,
      hnone⟩
    exact List.forall_mem_append.2 ⟨fun s hs => List.mem_cons_of_mem _ (hasked s hs),
      List.forall_mem_singleton.2 List.mem_cons_self⟩
  refine bind (changeTree (R := fun _ w => Prepares files (segment :: asked) segment w ∧
    w.tree.IsOpen (files.pathFor (safeName segment))) ?_ ?_) fun _ => ?_
  · rintro w tree ⟨prepared, h, hrest⟩ hadded
    exact ⟨⟨prepared, h.append hadded, hrest⟩, FileTree.isOpen_of_append hadded⟩
  · rintro w fault ⟨prepared, h, hasked, -⟩ -
    exact .serves h hasked
  refine bind (changeJournal (R := fun _ => Keeps (segment :: asked)) ?_) fun _ => pure fun _ hw => hw
  rintro w ⟨⟨prepared, h, hasked, hmem, hnone⟩, hopen⟩
  obtain ⟨e, he, -⟩ := h.routes.errorLog
  refine .serves ⟨h.level, h.routes.openSegmentLog hmem hnone, h.error, ?_⟩ hasked
  change ∀ x ∈ (w.journal.openSegmentLog files segment).segmentLoggers, _
  rw [Routes.openSegmentLog_eq he]
  exact List.forall_mem_append.2 ⟨h.logs, List.forall_mem_singleton.2 hopen⟩

/-- Asking for the logger of a segment prepares it, and if its log can be opened, that log is open. -/
theorem keeps_segmentLogger (segment : String) :
    Triple (Keeps asked) (Work.segmentLogger segment) (fun _ => Keeps (segment :: asked))
      fun _ => Keeps (segment :: asked) := by
  refine of_eq fun w₀ hw₀ => ?_
  unfold Work.segmentLogger
  refine get_bind ?_
  cases hknown : w₀.journal.segmentLoggers.lookup segment with
  | some name => exact pure fun _ hw => hw ▸ hw₀.mono fun _ => List.mem_cons_of_mem _
  | none =>
    dsimp only
    refine get_bind ?_
    cases hfiles : w₀.journal.files with
    | some files =>
      simp only [pure_bind]
      refine (keeps_openSegmentLog files segment).mono ?_ (fun _ _ hw => hw) fun _ _ hw => hw
      rintro _ rfl
      exact ⟨hw₀.exists_serves hfiles, hknown⟩
    | none =>
      refine bind ((keeps_setUpJournal none).mono (fun _ hw => hw ▸ hw₀) ?_
        fun _ _ hw => hw.mono fun _ hs => nomatch hs) fun files => keeps_openSegmentLog files segment
      rintro files w ⟨hw, hfiles⟩
      obtain ⟨prepared, hserves, hnone⟩ := hw.exists_serves hfiles
      refine ⟨⟨prepared, hserves, fun s hs => nomatch hnone s hs⟩, ?_⟩
      rw [List.lookup_eq_none_iff]
      exact fun x hx => nomatch hnone _ (hserves.routes.known x hx).2

/-- Messages change no journal. -/
theorem keeps_log (logger : String) (level : Level) (message : String) :
    Triple (Keeps asked) (Work.log logger level message) (fun _ => Keeps asked) fun _ => Keeps asked := by
  refine of_eq fun w₀ hw₀ => ?_
  unfold Work.log
  refine get_bind ?_
  refine mono (P := Keeps asked) ?_ (fun _ hw => hw ▸ hw₀) (fun _ _ hw => hw) fun _ _ hw => hw
  exact forIn fun e _ => changeTree (fun _ _ hw hadded => hw.append hadded) fun _ _ hw _ => hw

end Triple

/-- What holds of log files after every run. -/
theorem Workspace.Asked.keeps {start w : Workspace} {asked : List String} (hstart : start.journal.Bare)
    (h : Asked start asked w) : w.Keeps asked := by
  induction h with
  | start => exact .bare hstart
  | setUp _ given ih =>
    exact ((Triple.keeps_setUpJournal given).mono (fun _ hw => hw) (fun _ _ hw => hw.1) fun _ _ hw => hw).state ih
  | reset _ ih => exact ih.reset
  | get _ segment ih => exact (Triple.keeps_segmentLogger segment).state ih
  | message _ logger level message ih => exact (Triple.keeps_log logger level message).state ih

end Segmentation
