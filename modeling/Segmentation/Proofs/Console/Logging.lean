import Segmentation.Proofs.Journal
import Segmentation.Proofs.Storage.FileTree
import Segmentation.Proofs.Triple

/-!
# Log files beside a file

* `Workspace.Spares`: work that leaves the file at a place alone.
* `Workspace.OpensLogs`: work that does no more to files than to open empty ones.
* `Triple.setUpJournal`, `Triple.segmentLogger`, `Triple.log`: logging spares a file that is no log file.
-/

namespace Segmentation

open Storage

/-- The work that leads from `w` to `w'` leaves the file at the place `p`, the working directory and the time as
they are, and if the file can be read, it still can. Identifiers may be drawn, and the journal that is left does not
write to `p`. -/
structure Workspace.Spares (p : Path) (w w' : Workspace) : Prop where
  file : w'.tree.files.lookup p = w.tree.files.lookup p
  barrier : w.tree.barriers.lookup p = none → w'.tree.barriers.lookup p = none
  work : w'.tree.work = w.tree.work
  now : w'.now = w.now
  ids : w.ids.next ≤ w'.ids.next
  journal : w'.journal.WritesIn fun q => w.tree.place q ≠ p

/-- Moreover, every text in a file was there before, but for the empty ones of new files. -/
structure Workspace.OpensLogs (p : Path) (w w' : Workspace) : Prop extends Spares p w w' where
  texts : ∀ q text, w'.tree.files.lookup q = some text → w.tree.files.lookup q = some text ∨ text = ""

namespace Workspace

variable {p : Path} {w w' w'' : Workspace}

theorem Spares.refl (h : w.journal.WritesIn fun q => w.tree.place q ≠ p) : Spares p w w :=
  ⟨rfl, id, rfl, rfl, Nat.le_refl _, h⟩

theorem Spares.trans (h : Spares p w w') (h' : Spares p w' w'') : Spares p w w'' where
  file := h'.file.trans h.file
  barrier hclear := h'.barrier (h.barrier hclear)
  work := h'.work.trans h.work
  now := h'.now.trans h.now
  ids := Nat.le_trans h.ids h'.ids
  journal := by
    have hplace : w'.tree.place = w.tree.place := by
      funext q
      rw [FileTree.place, FileTree.place, h.work]
    exact hplace ▸ h'.journal

theorem Spares.place (h : Spares p w w') (q : Path) : w'.tree.place q = w.tree.place q := by
  rw [FileTree.place, FileTree.place, h.work]

theorem Spares.withJournal (h : Spares p w w') {j : Journal} (hj : j.WritesIn fun q => w.tree.place q ≠ p) :
    Spares p w { w' with journal := j } :=
  ⟨h.file, h.barrier, h.work, h.now, h.ids, hj⟩

theorem Spares.makeDirectory (h : Spares p w w') {q : Path} {tree : FileTree}
    (hmade : w'.tree.makeDirectory q = .ok tree) : Spares p w { w' with tree } where
  file := by
    rw [← h.file, ← FileTree.files_makeDirectory hmade]
  barrier hclear := (congrArg (List.lookup p) (FileTree.barriers_makeDirectory hmade)).trans (h.barrier hclear)
  work := (FileTree.work_makeDirectory hmade).trans h.work
  now := h.now
  ids := h.ids
  journal := h.journal

theorem Spares.append (h : Spares p w w') {q : Path} {text : String} {tree : FileTree}
    (hq : w.tree.place q ≠ p) (hadded : w'.tree.append q text = .ok tree) : Spares p w { w' with tree } where
  file := by
    rw [← h.file]
    refine (FileTree.lookup_append hadded p).trans (if_neg fun heq => hq ?_)
    rw [heq, h.place]
  barrier hclear := FileTree.barrier_append hadded (h.barrier hclear)
  work := (FileTree.work_append hadded).trans h.work
  now := h.now
  ids := h.ids
  journal := h.journal

theorem OpensLogs.makeDirectory (h : OpensLogs p w w') {q : Path} {tree : FileTree}
    (hmade : w'.tree.makeDirectory q = .ok tree) : OpensLogs p w { w' with tree } := by
  refine ⟨h.toSpares.makeDirectory hmade, fun r s hr => h.texts r s ?_⟩
  rw [← FileTree.files_makeDirectory hmade]
  exact hr

/-- Opening a file adds nothing to it. -/
theorem OpensLogs.open (h : OpensLogs p w w') {q : Path} {tree : FileTree} (hq : w.tree.place q ≠ p)
    (hadded : w'.tree.append q "" = .ok tree) : OpensLogs p w { w' with tree } := by
  refine ⟨h.toSpares.append hq hadded, fun r s hr => ?_⟩
  change tree.files.lookup r = some s at hr
  rw [FileTree.lookup_append hadded] at hr
  split at hr
  · rename_i heq
    rw [heq]
    cases hold : w'.tree.files.lookup (w'.tree.place q) with
    | none =>
      rw [hold] at hr
      cases hr
      exact .inr rfl
    | some before =>
      rw [hold, Option.getD_some, String.append_empty] at hr
      cases hr
      exact h.texts _ _ hold
  · exact h.texts r s hr

theorem OpensLogs.withJournal (h : OpensLogs p w w') {j : Journal}
    (hj : j.WritesIn fun q => w.tree.place q ≠ p) : OpensLogs p w { w' with journal := j } :=
  ⟨h.toSpares.withJournal hj, h.texts⟩

end Workspace

namespace Triple

open Workspace

variable {p : Path} {w : Workspace} {given : Settings}

/-- Setting up log files anew opens the log for errors. -/
theorem setUpJournal (hlogs : (LogFiles.ofSettings given).LieIn fun q => w.tree.place q ≠ p) :
    Triple (OpensLogs p w) (Work.setUpJournal (some given))
      (fun _ w' => OpensLogs p w w' ∧ w'.journal.files.isSome) fun _ => OpensLogs p w := by
  unfold Work.setUpJournal
  refine bind (changeJournal (R := fun _ => OpensLogs p w) fun w' hw => hw.withJournal hw.journal.reset)
    fun _ => ?_
  simp only [pure_bind]
  refine bind (changeTree (R := fun _ => OpensLogs p w) (fun _ _ hw hmade => hw.makeDirectory hmade)
    fun _ _ hw _ => hw) fun _ => ?_
  refine bind (changeJournal (R := fun _ => OpensLogs p w) fun w' hw => hw.withJournal (hw.journal.setLevel _))
    fun _ => ?_
  refine bind (changeTree (R := fun _ => OpensLogs p w) (fun _ _ hw hadded => hw.open hlogs.error hadded)
    fun _ _ hw _ => hw) fun _ => ?_
  refine bind (changeJournal (R := fun _ w' => OpensLogs p w w' ∧ w'.journal.files.isSome) fun w' hw =>
    ⟨hw.withJournal (hw.journal.openErrorLog hlogs), rfl⟩) fun _ => ?_
  exact pure fun _ hw => hw

/-- Once log files are set up, the log of a segment is opened, or it is there already. -/
theorem segmentLogger (segment : String) :
    Triple (fun w' => OpensLogs p w w' ∧ w'.journal.files.isSome) (Work.segmentLogger segment)
      (fun _ => OpensLogs p w) fun _ => OpensLogs p w := by
  refine of_eq fun w₀ hw₀ => ?_
  obtain ⟨hopens, hready⟩ := hw₀
  obtain ⟨files, hfiles⟩ := Option.isSome_iff_exists.1 hready
  have hlogs := hopens.journal.files files hfiles
  unfold Work.segmentLogger
  refine get_bind ?_
  cases hknown : w₀.journal.segmentLoggers.lookup segment with
  | some name => exact pure fun _ hw => hw ▸ hopens
  | none =>
    dsimp only
    refine get_bind ?_
    simp only [hfiles, pure_bind]
    refine mono (P := OpensLogs p w) ?_ (fun w' hw' => hw' ▸ hopens) (fun _ _ hw => hw) fun _ _ hw => hw
    refine bind (changeJournal (R := fun _ => OpensLogs p w) fun w' hw =>
      hw.withJournal (hw.journal.prepareSegment _ _)) fun _ => ?_
    refine bind (changeTree (R := fun _ => OpensLogs p w) (fun _ _ hw hadded => hw.open (hlogs segment) hadded)
      fun _ _ hw _ => hw) fun _ => ?_
    refine bind (changeJournal (R := fun _ => OpensLogs p w) fun w' hw =>
      hw.withJournal (hw.journal.openSegmentLog hlogs _)) fun _ => ?_
    exact pure fun _ hw => hw

/-- A message is written to log files only. -/
theorem log (logger : String) (level : Journal.Level) (message : String) :
    Triple (Spares p w) (Work.log logger level message) (fun _ => Spares p w) fun _ => Spares p w := by
  refine of_eq fun w₀ hw₀ => ?_
  unfold Work.log
  refine get_bind ?_
  refine mono (P := Spares p w) ?_ (fun w' hw' => hw' ▸ hw₀) (fun _ _ hw => hw) fun _ _ hw => hw
  refine forIn fun e he => ?_
  have hplace := hw₀.journal.mem_entries e he
  exact changeTree (fun _ _ hw hadded => hw.append hplace hadded) fun _ _ hw _ => hw

end Triple

end Segmentation
