import Segmentation.Proofs.Journal.Loggers

/-!
# Where a journal writes

* `Journal.WritesIn`: all files that the journal writes to, and all that it may open, are among given ones.
* `Journal.WritesIn.reset`, `Journal.WritesIn.openErrorLog`, `Journal.WritesIn.openSegmentLog`, …: the steps by
  which log files are set up keep this.
* `Journal.WritesIn.mem_entries`: messages go to no other files.
-/

namespace Segmentation

open Journal

variable {E : Path → Prop}

/-- The handler writes to one of the files, or to none. -/
def Journal.Handler.WritesIn (E : Path → Prop) (h : Handler) : Prop :=
  match h.target with
  | .segmentLog file | .errorLog file => E file
  | .foreign => True

/-- The log files of all segments, and the one for errors, are among the files. -/
def LogFiles.LieIn (E : Path → Prop) (files : LogFiles) : Prop :=
  ∀ segment, E (files.pathFor (safeName segment))

theorem LogFiles.LieIn.error {files : LogFiles} (h : files.LieIn E) : E (files.pathFor "error") :=
  safeName_error ▸ h "error"

namespace Journal

/-- The journal writes only to the files that are given. -/
structure WritesIn (E : Path → Prop) (j : Journal) : Prop where
  loggers : ∀ l ∈ j.loggers, ∀ h ∈ l.2.handlers, h.WritesIn E
  error : ∀ h ∈ j.errorHandler, h.WritesIn E
  files : ∀ f ∈ j.files, f.LieIn E

theorem writesIn_empty : WritesIn E empty :=
  ⟨nofun, nofun, nofun⟩

namespace WritesIn

variable {j : Journal} {files : LogFiles} {handler : Handler} {name : String}

theorem logger (h : j.WritesIn E) (name : String) : ∀ x ∈ (j.logger name).handlers, x.WritesIn E := by
  unfold Journal.logger
  cases hfound : j.loggers.lookup name with
  | none =>
    intro x hx
    rw [Option.getD_none] at hx
    split at hx <;> cases hx
  | some l =>
    obtain ⟨before, after, heq, -⟩ := List.lookup_eq_some_iff.1 hfound
    exact h.loggers (name, l) (by simp [heq])

theorem update (h : j.WritesIn E) {change : Logger → Logger}
    (hchange : ∀ x ∈ (change (j.logger name)).handlers, x ∈ (j.logger name).handlers ∨ x.WritesIn E) :
    (j.update name change).WritesIn E where
  loggers := by
    intro l hl x hx
    rcases List.mem_cons.1 hl with rfl | hl
    · exact (hchange x hx).elim (h.logger name x) id
    · exact h.loggers l (List.mem_filter.1 hl).1 x hx
  error := h.error
  files := h.files

theorem attach (h : j.WritesIn E) (name : String) (hx : handler.WritesIn E) :
    (j.attach name handler).WritesIn E := by
  have hadded : (j.update name (·.addHandler handler)).WritesIn E := by
    refine h.update fun x hmem => ?_
    unfold Logger.addHandler at hmem
    split at hmem
    · exact .inl hmem
    · rcases List.mem_append.1 hmem with hmem | hmem
      · exact .inl hmem
      · exact .inr (List.mem_singleton.1 hmem ▸ hx)
  exact ⟨hadded.loggers, hadded.error, hadded.files⟩

theorem attachFilter (h : j.WritesIn E) (name : String) (filter : Filter) :
    (j.attachFilter name filter).WritesIn E := by
  have hadded : (j.update name (·.addFilter filter)).WritesIn E := by
    refine h.update fun x hmem => ?_
    unfold Logger.addFilter at hmem
    split at hmem <;> exact .inl hmem
  exact ⟨hadded.loggers, hadded.error, hadded.files⟩

/-- Taking things away from loggers, one after the other. -/
theorem foldl_update {α : Type} (h : j.WritesIn E) (change : α → Logger → Logger)
    (hchange : ∀ a l, ∀ x ∈ (change a l).handlers, x ∈ l.handlers) (attached : List (String × α)) :
    (attached.foldl (fun j (a : String × α) => j.update a.1 (change a.2)) j).WritesIn E := by
  induction attached generalizing j with
  | nil => exact h
  | cons a attached ih => exact ih (h.update fun x hx => .inl (hchange a.2 _ x hx))

theorem reset (h : j.WritesIn E) : j.reset.WritesIn E := by
  have hhandlers := h.foldl_update (fun x l => Logger.removeHandler l x)
    (fun _ _ _ hx => List.mem_of_mem_erase hx) j.handlers
  have hfilters := fun attached =>
    hhandlers.foldl_update (fun f l => Logger.removeFilter l f) (fun _ _ _ hx => hx) attached
  exact ⟨(hfilters _).loggers, nofun, nofun⟩

theorem setLevel (h : j.WritesIn E) (level : Level) : (j.setLevel level).WritesIn E :=
  h.update fun _ hx => .inl hx

theorem openErrorLog (h : j.WritesIn E) (hfiles : files.LieIn E) : (j.openErrorLog files).WritesIn E := by
  have hnext : WritesIn E { j with nextId := j.nextId + 1 } := ⟨h.loggers, h.error, h.files⟩
  have herror : Handler.WritesIn E ⟨j.nextId, .errorLog (files.pathFor "error")⟩ := hfiles.error
  have hadded := hnext.attach packageName herror
  refine ⟨hadded.loggers, ?_, ?_⟩
  · rintro _ ⟨⟩
    exact hfiles.error
  · rintro _ ⟨⟩
    exact hfiles

theorem prepareSegment (h : j.WritesIn E) (files : LogFiles) (segment : String) :
    (j.prepareSegment files segment).WritesIn E := by
  have hset : (j.update (segmentLoggerName segment) fun l =>
      { l with level := files.level, passesOn := false }).WritesIn E := h.update fun _ hx => .inl hx
  have hnext : WritesIn E { j.update (segmentLoggerName segment) fun l =>
      { l with level := files.level, passesOn := false } with nextId := j.nextId + 1 } :=
    ⟨hset.loggers, hset.error, hset.files⟩
  exact hnext.attachFilter _ _

theorem openSegmentLog (h : j.WritesIn E) (hfiles : files.LieIn E) (segment : String) :
    (j.openSegmentLog files segment).WritesIn E := by
  have hnext : WritesIn E { j with nextId := j.nextId + 1 } := ⟨h.loggers, h.error, h.files⟩
  have hfile : Handler.WritesIn E ⟨j.nextId, .segmentLog (files.pathFor (safeName segment))⟩ := hfiles segment
  have hadded := hnext.attach (segmentLoggerName segment) hfile
  unfold Journal.openSegmentLog
  dsimp only
  split
  · rename_i e he
    have hboth := hadded.attach (segmentLoggerName segment) (hadded.error e he)
    exact ⟨hboth.loggers, hboth.error, hboth.files⟩
  · exact ⟨hadded.loggers, hadded.error, hadded.files⟩

/-- A message goes to the files of handlers, which the journal has been given. -/
theorem mem_entries (h : j.WritesIn E) {level : Level} {message : String} :
    ∀ e ∈ j.entries name level message, E e.1 := by
  have hchain : ∀ l ∈ j.chain name, ∀ x ∈ l.handlers, x.WritesIn E := by
    intro l hl
    unfold chain at hl
    split at hl
    · obtain rfl := List.mem_singleton.1 hl
      exact h.logger _
    · rcases List.mem_append.1 hl with hl | hl
      · obtain ⟨above, -, rfl⟩ := List.mem_map.1 hl
        exact h.logger _
      · obtain rfl := List.mem_singleton.1 hl
        exact h.logger _
  have hreached : ∀ ls : List Logger, ∀ l ∈ reached ls, l ∈ ls := by
    intro ls
    induction ls with
    | nil => exact fun _ hl => hl
    | cons l ls ih =>
      intro l' hl
      unfold reached at hl
      split at hl
      · exact (List.mem_cons.1 hl).elim (fun h => h ▸ List.mem_cons_self) fun h => List.mem_cons_of_mem _ (ih _ h)
      · exact List.mem_singleton.1 hl ▸ List.mem_cons_self
  intro e he
  unfold entries at he
  split at he
  · cases he
  · obtain ⟨x, hx, hrecord⟩ := List.mem_filterMap.1 he
    obtain ⟨l, hl, hx⟩ := List.mem_flatMap.1 (List.mem_filter.1 hx).1
    have hwrites := hchain l (hreached _ l hl) x hx
    unfold Handler.WritesIn at hwrites
    unfold Handler.record? at hrecord
    cases htarget : x.target <;> rw [htarget] at hwrites hrecord <;> cases hrecord
    · exact hwrites
    · exact hwrites

end WritesIn

end Journal

end Segmentation
