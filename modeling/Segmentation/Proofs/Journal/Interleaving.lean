import Segmentation.Proofs.Journal.Delivery
import Segmentation.Proofs.Journal.Ownership

/-!
# Runs in which others use the loggers as well

* `Triple.journal_setUpJournal`, `Triple.journal_openSegmentLog`: what setting up log files and opening the log of a
  segment do to the journal, also where they fail.
* `Workspace.Event`: what happens in a run: log files are set up or reset, loggers of segments are asked for, and
  others change what they have attached to loggers, or the rest of the workspace.
* `Workspace.Event.tended`: each step keeps a journal owned and changes nothing that belongs to others.
* `Workspace.journal_runAll`: so what is recorded and what is attached agree after every run, and a reset takes away
  exactly this.
-/

namespace Segmentation

open Journal

/-! ## What others do with a logger -/

namespace Journal

/-- What others do with a logger. Their handlers and filters are told apart by numbers of their own. -/
inductive Touch where
  | addHandler (id : Nat)
  | removeHandler (id : Nat)
  | addFilter (id : Nat)
  | removeFilter (id : Nat)

namespace Touch

/-- The logger afterwards. -/
def apply : Touch → Logger → Logger
  | addHandler id, l => l.addHandler ⟨id, .foreign⟩
  | removeHandler id, l => l.removeHandler ⟨id, .foreign⟩
  | addFilter id, l => l.addFilter ⟨id, none⟩
  | removeFilter id, l => l.removeFilter ⟨id, none⟩

variable {t : Touch} {l : Logger}

theorem level_apply : (t.apply l).level = l.level := by
  cases t with
  | addHandler id => exact Logger.level_addHandler
  | addFilter id => exact Logger.level_addFilter
  | _ => rfl

theorem mem_handlers_apply {h : Handler} (hours : h.target ≠ .foreign) :
    h ∈ (t.apply l).handlers ↔ h ∈ l.handlers := by
  have hne : ∀ id, h ≠ ⟨id, .foreign⟩ := by
    rintro id rfl
    exact hours rfl
  cases t with
  | addHandler id =>
    refine Logger.mem_handlers_addHandler.trans ⟨fun hmem => ?_, .inl⟩
    exact hmem.resolve_right (hne id)
  | removeHandler id => exact List.mem_erase_of_ne (hne id)
  | addFilter id => rw [apply, Logger.handlers_addFilter]
  | removeFilter id => rfl

theorem mem_filters_apply {f : Filter} (hours : f.segment ≠ none) :
    f ∈ (t.apply l).filters ↔ f ∈ l.filters := by
  have hne : ∀ id, f ≠ ⟨id, none⟩ := by
    rintro id rfl
    exact hours rfl
  cases t with
  | addHandler id => rw [apply, Logger.filters_addHandler]
  | removeHandler id => rfl
  | addFilter id =>
    refine Logger.mem_filters_addFilter.trans ⟨fun hmem => ?_, .inl⟩
    exact hmem.resolve_right (hne id)
  | removeFilter id => exact List.mem_erase_of_ne (hne id)

theorem nodup_handlers_apply (hl : l.handlers.Nodup) : (t.apply l).handlers.Nodup := by
  cases t with
  | addHandler id => exact Logger.nodup_handlers_addHandler hl
  | removeHandler id => exact hl.erase _
  | addFilter id => rwa [apply, Logger.handlers_addFilter]
  | removeFilter id => exact hl

theorem nodup_filters_apply (hl : l.filters.Nodup) : (t.apply l).filters.Nodup := by
  cases t with
  | addHandler id => rwa [apply, Logger.filters_addHandler]
  | removeHandler id => exact hl
  | addFilter id => exact Logger.nodup_filters_addFilter hl
  | removeFilter id => exact hl.erase _

/-- What others find of their own things is what they would find on a logger of their own. -/
theorem others_apply {alone : Logger} (h : l.others = alone.attached) :
    (t.apply l).others = (t.apply alone).attached := by
  obtain ⟨hhandlers, hfilters⟩ := Prod.ext_iff.1 h
  dsimp only [Logger.others, Logger.attached] at hhandlers hfilters
  unfold Logger.others Logger.attached
  cases t with
  | addHandler id =>
    have hmem : (⟨id, .foreign⟩ : Handler) ∈ alone.handlers ↔ ⟨id, .foreign⟩ ∈ l.handlers := by
      rw [← hhandlers, List.mem_filter]
      simp
    dsimp only [apply]
    rw [Logger.filters_addHandler, Logger.filters_addHandler, hfilters]
    by_cases hold : (⟨id, .foreign⟩ : Handler) ∈ l.handlers
    · have hkept : l.addHandler ⟨id, .foreign⟩ = l := if_pos hold
      have hkept' : alone.addHandler ⟨id, .foreign⟩ = alone := if_pos (hmem.2 hold)
      rw [hkept, hkept', hhandlers]
    · rw [Logger.handlers_addHandler_of_notMem hold, Logger.handlers_addHandler_of_notMem (mt hmem.1 hold),
        List.filter_append, hhandlers]
      rfl
  | removeHandler id =>
    dsimp only [apply, Logger.removeHandler]
    rw [← List.erase_filter, hhandlers, hfilters]
  | addFilter id =>
    have hmem : (⟨id, none⟩ : Filter) ∈ alone.filters ↔ ⟨id, none⟩ ∈ l.filters := by
      rw [← hfilters, List.mem_filter]
      simp
    dsimp only [apply]
    rw [Logger.handlers_addFilter, Logger.handlers_addFilter, hhandlers]
    by_cases hold : (⟨id, none⟩ : Filter) ∈ l.filters
    · have hkept : l.addFilter ⟨id, none⟩ = l := if_pos hold
      have hkept' : alone.addFilter ⟨id, none⟩ = alone := if_pos (hmem.2 hold)
      rw [hkept, hkept', hfilters]
    · rw [Logger.filters_addFilter_of_notMem hold, Logger.filters_addFilter_of_notMem (mt hmem.1 hold),
        List.filter_append, hfilters]
      rfl
  | removeFilter id =>
    dsimp only [apply, Logger.removeFilter]
    rw [← List.erase_filter, hhandlers, hfilters]

end Touch

section Touch

variable {j : Journal} {name other : String} {t : Touch}

theorem logger_touch (other : String) :
    (j.update name t.apply).logger other = if other = name then t.apply (j.logger other) else j.logger other := by
  rw [logger_update]
  split
  · rename_i heq
    rw [heq]
  · rfl

theorem Recorded.touch (h : j.Recorded) : (j.update name t.apply).Recorded where
  handlers other x hx hours := by
    refine h.handlers other x ?_ hours
    rw [logger_touch] at hx
    split at hx
    · exact (Touch.mem_handlers_apply hours).1 hx
    · exact hx
  filters other f hf hours := by
    refine h.filters other f ?_ hours
    rw [logger_touch] at hf
    split at hf
    · exact (Touch.mem_filters_apply hours).1 hf
    · exact hf
  nodup_handlers other := by
    rw [logger_touch]
    split
    · exact Touch.nodup_handlers_apply (h.nodup_handlers other)
    · exact h.nodup_handlers other
  nodup_filters other := by
    rw [logger_touch]
    split
    · exact Touch.nodup_filters_apply (h.nodup_filters other)
    · exact h.nodup_filters other
  handler_lt := h.handler_lt
  filter_lt := h.filter_lt
  segments := by
    rw [logger_touch, apply_ite Logger.level, Touch.level_apply, ite_self]
    exact h.segments
  root := by
    rw [logger_touch, apply_ite Logger.level, Touch.level_apply, ite_self]
    exact h.root

theorem Owned.touch (h : j.Owned) : (j.update name t.apply).Owned where
  toRecorded := h.toRecorded.touch
  attached_handlers x hx := by
    obtain ⟨hmem, hours⟩ := h.attached_handlers x hx
    refine ⟨?_, hours⟩
    rw [logger_touch]
    split
    · exact (Touch.mem_handlers_apply hours).2 hmem
    · exact hmem
  attached_filters x hx := by
    obtain ⟨hmem, hours⟩ := h.attached_filters x hx
    refine ⟨?_, hours⟩
    rw [logger_touch]
    split
    · exact (Touch.mem_filters_apply hours).2 hmem
    · exact hmem
  set_up := h.set_up
  error := h.error
  only_error := h.only_error

theorem Idle.touch (h : j.Idle) : (j.update name t.apply).Idle where
  toRecorded := h.toRecorded.touch
  no_handlers := h.no_handlers
  no_filters := h.no_filters
  no_segments := h.no_segments
  no_files := h.no_files
  no_error := h.no_error

end Touch

end Journal

/-! ## What the steps do to the journal -/

/-- The settings that log files are set up by: given ones, or those of the workspace. -/
def Workspace.settingsBy (w : Workspace) : Option Settings → Except Escape Settings
  | some s => .ok s
  | none => w.given

namespace Triple

/-- Setting up log files resets the journal first, and if it fails it is left like that. -/
theorem journal_setUpJournal (w₀ : Workspace) (given : Option Settings) :
    Triple (· = w₀) (Work.setUpJournal given)
      (fun files w => (∃ s, w₀.settingsBy given = .ok s ∧ files = .ofSettings s) ∧
        w.journal = (w₀.journal.reset.setLevel files.level).openErrorLog files)
      fun _ w => w.journal = w₀.journal.reset ∨ ∃ level, w.journal = w₀.journal.reset.setLevel level := by
  have hopen : ∀ s, w₀.settingsBy given = .ok s → Triple (fun w => w.journal = w₀.journal.reset) (do
        Work.changeTree (·.makeDirectory (LogFiles.ofSettings s).directory)
        Work.changeJournal (·.setLevel (LogFiles.ofSettings s).level)
        Work.changeTree (·.append ((LogFiles.ofSettings s).pathFor "error") "")
        Work.changeJournal (·.openErrorLog (LogFiles.ofSettings s))
        return LogFiles.ofSettings s)
      (fun files w => (∃ s, w₀.settingsBy given = .ok s ∧ files = .ofSettings s) ∧
        w.journal = (w₀.journal.reset.setLevel files.level).openErrorLog files)
      fun _ w => w.journal = w₀.journal.reset ∨ ∃ level, w.journal = w₀.journal.reset.setLevel level := by
    intro s hs
    refine bind (changeTree (R := fun _ w => w.journal = w₀.journal.reset) (fun _ _ hw _ => hw)
      fun _ _ hw _ => .inl hw) fun _ => ?_
    refine bind (changeJournal (R := fun _ w => w.journal = w₀.journal.reset.setLevel (LogFiles.ofSettings s).level)
      fun _ hw => congrArg (Journal.setLevel · _) hw) fun _ => ?_
    refine bind (changeTree (R := fun _ w => w.journal = w₀.journal.reset.setLevel (LogFiles.ofSettings s).level)
      (fun _ _ hw _ => hw) fun _ _ hw _ => .inr ⟨_, hw⟩) fun _ => ?_
    refine bind (changeJournal (R := fun _ w => w.journal =
      (w₀.journal.reset.setLevel (LogFiles.ofSettings s).level).openErrorLog (LogFiles.ofSettings s))
      fun _ hw => congrArg (Journal.openErrorLog · _) hw) fun _ => ?_
    exact pure fun _ hw => ⟨⟨s, hs, rfl⟩, hw⟩
  unfold Work.setUpJournal
  refine bind (changeJournal (R := fun _ w => w = { w₀ with journal := w₀.journal.reset }) ?_) fun _ => ?_
  · rintro _ rfl
    rfl
  cases given with
  | some s =>
    simp only [pure_bind]
    refine (hopen s rfl).mono ?_ (fun _ _ => id) fun _ _ => id
    rintro _ rfl
    rfl
  | none =>
    refine bind (settings.mono (fun _ hw => hw) (fun _ _ hw => hw) ?_) fun s => of_eq ?_
    · rintro _ _ rfl
      exact .inl rfl
    · rintro _ ⟨rfl, hs⟩
      refine (hopen s ((w₀.given_withJournal _).symm.trans hs)).mono ?_ (fun _ _ => id) fun _ _ => id
      rintro _ rfl
      rfl

/-- Opening the log of a segment prepares its logger first, and if it fails it is left like that. -/
theorem journal_openSegmentLog (j₀ : Journal) (files : LogFiles) (segment : String) :
    Triple (fun w => w.journal = j₀) (do
        Work.changeJournal (·.prepareSegment files segment)
        Work.changeTree (·.append (files.pathFor (safeName segment)) "")
        Work.changeJournal (·.openSegmentLog files segment)
        return segmentLoggerName segment)
      (fun name w => name = segmentLoggerName segment ∧
        w.journal = (j₀.prepareSegment files segment).openSegmentLog files segment)
      fun _ w => w.journal = j₀.prepareSegment files segment := by
  refine bind (changeJournal (R := fun _ w => w.journal = j₀.prepareSegment files segment)
    fun _ hw => congrArg (Journal.prepareSegment · files segment) hw) fun _ => ?_
  refine bind (changeTree (R := fun _ w => w.journal = j₀.prepareSegment files segment) (fun _ _ hw _ => hw)
    fun _ _ hw _ => hw) fun _ => ?_
  refine bind (changeJournal (R := fun _ w => w.journal =
    (j₀.prepareSegment files segment).openSegmentLog files segment)
    fun _ hw => congrArg (Journal.openSegmentLog · files segment) hw) fun _ => ?_
  exact pure fun _ hw => ⟨rfl, hw⟩

end Triple

/-! ## Runs -/

namespace Workspace

/-- What others do: they touch a logger, or they change anything but the journal. -/
inductive Other where
  | touch (logger : String) (t : Touch)
  | elsewhere (change : Workspace → Workspace)

/-- The workspace afterwards. -/
def Other.run : Other → Workspace → Workspace
  | touch logger t, w => { w with journal := w.journal.update logger t.apply }
  | elsewhere change, w => { change w with journal := w.journal }

/-- What happens in a run. -/
inductive Event where
  | other (o : Other)
  | setUp (given : Option Settings)
  | get (segment : String)
  | reset

namespace Event

/-- The workspace after an event, whether what was asked for succeeds or not. -/
def run : Event → Workspace → Workspace
  | other o, w => o.run w
  | setUp given, w => ((Work.setUpJournal given).run.run w).2
  | get segment, w => ((Work.segmentLogger segment).run.run w).2
  | reset, w => { w with journal := w.journal.reset }

/-- What the event does to loggers that only others use. -/
def alone : Event → Journal → Journal
  | other (.touch logger t), j => j.update logger t.apply
  | _, j => j

end Event

/-- The workspace after a run. -/
def runAll (events : List Event) (w : Workspace) : Workspace :=
  events.foldl (fun w e => e.run w) w

/-- The loggers as they would be if only others had used them. -/
def withoutUs (events : List Event) : Journal :=
  events.foldl (fun j e => e.alone j) .empty

/-- The journal is owned, and others find of their own things what they would find if they were alone. -/
structure Tended (alone : Journal) (w : Workspace) : Prop where
  owned : w.journal.Owned
  others : ∀ name, (w.journal.logger name).others = (alone.logger name).attached

variable {alone : Journal} {w w' : Workspace}

theorem Tended.step (h : w.Tended alone) (howned : w'.journal.Owned)
    (hothers : ∀ name, (w'.journal.logger name).others = (w.journal.logger name).others) : w'.Tended alone :=
  ⟨howned, fun name => (hothers name).trans (h.others name)⟩

theorem Tended.setUp (h : w.Tended alone) (given : Option Settings) :
    Triple (· = w) (Work.setUpJournal given)
      (fun _ w' => Tended alone w' ∧ ∃ e, w'.journal.errorHandler = some e) fun _ => Tended alone := by
  have hidle := h.owned.reset
  have hreset := h.owned.toAttached.others_reset
  refine (Triple.journal_setUpJournal w given).mono (fun _ => id) ?_ ?_
  · rintro _ w' ⟨-, hjournal⟩
    refine ⟨h.step ?_ fun name => ?_, ?_⟩
    · rw [hjournal]
      exact (hidle.setLevel _).openErrorLog _
    · rw [hjournal, others_openErrorLog, others_setLevel, hreset]
    · rw [hjournal]
      exact ⟨_, rfl⟩
  · rintro _ w' (hjournal | ⟨level, hjournal⟩)
    · exact h.step (hjournal ▸ hidle.owned) fun name => by rw [hjournal, hreset]
    · exact h.step (hjournal ▸ (hidle.setLevel level).owned) fun name => by
        rw [hjournal, others_setLevel, hreset]

theorem Tended.openSegmentLog (h : w.Tended alone) {e : Handler} (he : w.journal.errorHandler = some e)
    (files : LogFiles) (segment : String) :
    Triple (fun w' => w'.journal = w.journal) (do
        Work.changeJournal (·.prepareSegment files segment)
        Work.changeTree (·.append (files.pathFor (safeName segment)) "")
        Work.changeJournal (·.openSegmentLog files segment)
        return segmentLoggerName segment)
      (fun _ => Tended alone) fun _ => Tended alone := by
  have hprepared := h.owned.prepareSegment files segment
  have herror : (w.journal.prepareSegment files segment).errorHandler = some e := he
  refine (Triple.journal_openSegmentLog w.journal files segment).mono (fun _ => id) ?_ ?_
  · rintro _ w' ⟨-, hjournal⟩
    refine h.step ?_ fun name => ?_
    · rw [hjournal]
      exact hprepared.openSegmentLog herror files segment
    · rw [hjournal, others_openSegmentLog herror (hprepared.error e herror).1, others_prepareSegment]
  · intro _ w' hjournal
    exact h.step (hjournal ▸ hprepared) fun name => by rw [hjournal, others_prepareSegment]

/-- A segment's logger is found, or it is prepared after log files have been set up. -/
theorem Tended.segmentLogger (h : w.Tended alone) (segment : String) :
    Triple (· = w) (Work.segmentLogger segment) (fun _ => Tended alone) fun _ => Tended alone := by
  unfold Work.segmentLogger
  refine .get_bind ?_
  cases hknown : w.journal.segmentLoggers.lookup segment with
  | some name => exact .pure fun _ hw => hw ▸ h
  | none =>
    dsimp only
    refine .get_bind ?_
    cases hfiles : w.journal.files with
    | some files =>
      obtain ⟨e, he⟩ := h.owned.set_up files hfiles
      simp only [pure_bind]
      exact (h.openSegmentLog he files segment).mono (fun _ hw => hw ▸ rfl) (fun _ _ => id) fun _ _ => id
    | none =>
      refine .bind (h.setUp none) fun files => .of_eq ?_
      rintro w' ⟨hw', e, he⟩
      exact (hw'.openSegmentLog he files segment).mono (fun _ hw => hw ▸ rfl) (fun _ _ => id) fun _ _ => id

/-- Each event keeps the journal owned and does to others' things what it would do without this library. -/
theorem Event.tended (e : Event) (h : w.Tended alone) : Tended (e.alone alone) (e.run w) := by
  cases e with
  | other o =>
    cases o with
    | touch logger t =>
      refine ⟨h.owned.touch, fun name => ?_⟩
      change ((w.journal.update logger t.apply).logger name).others = _
      rw [Event.alone, logger_touch, logger_touch]
      split
      · exact Touch.others_apply (h.others name)
      · exact h.others name
    | elsewhere change => exact ⟨h.owned, h.others⟩
  | setUp given => exact ((h.setUp given).mono (fun _ => id) (fun _ _ hw => hw.1) fun _ _ => id).state rfl
  | get segment => exact (h.segmentLogger segment).state rfl
  | reset => exact h.step h.owned.reset.owned h.owned.toAttached.others_reset

theorem tended_runAll (events : List Event) (h : w.Tended alone) :
    Tended (events.foldl (fun j e => e.alone j) alone) (runAll events w) := by
  induction events generalizing alone w with
  | nil => exact h
  | cons e events ih => exact ih (e.tended h)

/-! ## Starting again -/

theorem Other.idle_run (o : Other) (h : w.journal.Idle) : (o.run w).journal.Idle := by
  cases o with
  | touch logger t => exact h.touch
  | elsewhere change => exact h

/-- After a reset nothing is attached for as long as only others do anything. -/
theorem idle_runAll (events : List Event) (later : List Other) (h : w.Tended alone) :
    (runAll (events ++ .reset :: later.map .other) w).journal.Idle := by
  have hreset := (tended_runAll events h).owned.reset
  have hlater : ∀ v : Workspace, v.journal.Idle → (runAll (later.map .other) v).journal.Idle := by
    induction later with
    | nil => exact fun _ hv => hv
    | cons o later ih => exact fun v hv => ih (o.run v) (o.idle_run hv)
  rw [runAll, List.foldl_append]
  exact hlater (Event.reset.run (runAll events w)) hreset

/-- Log files have been set up by the settings of the workspace and the segment has got a logger. All handlers and
filters are new, and there is nothing else. If that fails, no segment has a logger. -/
def Afresh (w : Workspace) (segment : String) : Except Escape String × Workspace → Prop
  | (.error _, w') => w'.journal.segmentLoggers = []
  | (.ok name, w') => name = segmentLoggerName segment ∧ ∃ s, w.given = .ok s ∧
      let files := LogFiles.ofSettings s
      let errors : Handler := ⟨w.journal.nextId, .errorLog (files.pathFor "error")⟩
      let tag : Filter := ⟨w.journal.nextId + 1, some segment⟩
      let own : Handler := ⟨w.journal.nextId + 2, .segmentLog (files.pathFor (safeName segment))⟩
      w'.journal.files = some files ∧ w'.journal.errorHandler = some errors ∧
        w'.journal.handlers = [(packageName, errors), (name, own), (name, errors)] ∧
        w'.journal.filters = [(name, tag)] ∧ w'.journal.segmentLoggers = [(segment, name)]

/-- Asking for a segment's logger sets up log files if they are not yet. -/
theorem afresh_segmentLogger (h : w.journal.Idle) (segment : String) :
    w.Afresh segment ((Work.segmentLogger segment).run.run w) := by
  have htriple : Triple (· = w) (Work.segmentLogger segment) (fun name w' => w.Afresh segment (.ok name, w'))
      fun e w' => w.Afresh segment (.error e, w') := by
    unfold Work.segmentLogger
    refine .get_bind ?_
    rw [h.no_segments]
    dsimp only [List.lookup_nil]
    refine .get_bind ?_
    rw [h.no_files]
    dsimp only
    refine .bind ((Triple.journal_setUpJournal w none).mono (fun _ => id) (fun _ _ => id) ?_) fun files =>
      .of_eq ?_
    · rintro e w' (hjournal | ⟨level, hjournal⟩) <;> exact congrArg Journal.segmentLoggers hjournal
    · rintro w' ⟨⟨s, hs, rfl⟩, hjournal⟩
      rw [h.reset_eq] at hjournal
      refine (Triple.journal_openSegmentLog w'.journal (.ofSettings s) segment).mono (fun _ hw => hw ▸ rfl) ?_ ?_
      · rintro name w'' ⟨rfl, hfinal⟩
        rw [hjournal, Routes.openSegmentLog_eq rfl] at hfinal
        refine ⟨rfl, s, hs, ?_⟩
        dsimp only
        rw [hfinal]
        refine ⟨rfl, rfl, congrArg (· ++ _ ++ _ ++ _) h.no_handlers, congrArg (· ++ _) h.no_filters,
          congrArg (· ++ _) h.no_segments⟩
      · intro e w'' hfinal
        rw [hjournal] at hfinal
        exact (congrArg Journal.segmentLoggers hfinal).trans h.no_segments
  have hrun := htriple.run w rfl
  rcases hresult : (Work.segmentLogger segment).run.run w with ⟨e | name, w'⟩ <;> rw [hresult] at hrun <;> exact hrun

theorem tended_empty (w : Workspace) : Tended .empty { w with journal := .empty } := by
  refine ⟨idle_empty.owned, fun name => ?_⟩
  change (Journal.empty.logger name).others = _
  unfold Journal.logger
  by_cases hroot : name = "root" <;> simp [Journal.empty, hroot, Logger.others, Logger.attached, Logger.root,
    Logger.plain]

/-- After every run, what is attached to any logger is what is recorded for it and what others have attached, each
once, with others' things as they would be had nothing else happened. No logger, and so not the one of this library,
has more than one handler for errors. After a reset nothing that is left belongs to this library, whatever others do
then, and the next request for a logger starts anew. -/
theorem journal_runAll (events : List Event) (w : Workspace) :
    let start : Workspace := { w with journal := .empty }
    let j := (runAll events start).journal
    (∀ name, (∀ h, (name, h) ∈ j.handlers ↔ h ∈ (j.logger name).handlers ∧ h.target ≠ .foreign) ∧
      (∀ f, (name, f) ∈ j.filters ↔ f ∈ (j.logger name).filters ∧ f.segment ≠ none) ∧
      (j.logger name).handlers.Nodup ∧ (j.logger name).filters.Nodup ∧
      (j.logger name).handlers.countP (·.writesErrors) ≤ 1 ∧
      (j.logger name).others = ((withoutUs events).logger name).attached) ∧
    ∀ later : List Other,
      let w' := runAll (events ++ .reset :: later.map .other) start
      (∀ name, (∀ h ∈ (w'.journal.logger name).handlers, h.target = .foreign) ∧
        ∀ f ∈ (w'.journal.logger name).filters, f.segment = none) ∧
      ∀ segment, w'.Afresh segment ((Work.segmentLogger segment).run.run w') := by
  intro start j
  have htended : Tended (withoutUs events) (runAll events start) := tended_runAll events (tended_empty w)
  have howned := htended.owned
  refine ⟨fun name => ⟨fun h => howned.mem_handlers, fun f => howned.mem_filters, howned.nodup_handlers name,
    howned.nodup_filters name, howned.countP_writesErrors name, htended.others name⟩, fun later => ?_⟩
  have hidle := idle_runAll events later (tended_empty w)
  exact ⟨hidle.toBare.forall_foreign, afresh_segmentLogger hidle⟩

/-- Two segments share a logger with a handler of others. After a reset only that one is left, and the next request
sets up log files by default settings. -/
example :
    let shared := segmentLoggerName "a b"
    let events : List Event := [.get "a b", .other (.touch shared (.addHandler 8)), .get "a-b"]
    let j := (runAll events fresh).journal
    let j' := (runAll (events ++ [.reset, .get "a b"]) fresh).journal
    ((j.logger shared).handlers.map (·.id) = [2, 0, 8, 4] ∧ (j.logger packageName).handlers.map (·.id) = [0]) ∧
      (j'.logger shared).handlers.map (·.id) = [8, 7, 5] ∧ (j'.logger packageName).handlers.map (·.id) = [5] := by
  decide +kernel

end Workspace

end Segmentation
