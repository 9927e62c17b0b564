import Segmentation.Proofs.Journal.Routing

/-!
# What belongs to a journal

Loggers are shared with code that has handlers and filters of its own.

* `Journal.Logger.others`: what a logger has of others, which attaching and recording leave alone.
* `Journal.Attached`: what is recorded is what is attached, apart from what belongs to others.
* `Journal.Owned`: moreover, all handlers for errors are the one that is kept for new loggers.
* `Journal.Owned.reset`, `Journal.Idle.openErrorLog`, `Journal.Owned.prepareSegment`,
  `Journal.Owned.openSegmentLog`: each step keeps this, and a reset leaves nothing.
-/

namespace Segmentation.Journal

/-! ## What belongs to others -/

/-- The handler writes the log for errors. -/
def Handler.writesErrors (h : Handler) : Bool :=
  match h.target with
  | .errorLog _ => true
  | _ => false

theorem Handler.target_ne_foreign {h : Handler} (herrors : h.writesErrors = true) : h.target ≠ .foreign := by
  intro hforeign
  rw [writesErrors, hforeign] at herrors
  cases herrors

namespace Logger

/-- All that a logger has attached, in its order. -/
def attached (l : Logger) : List Handler × List Filter :=
  (l.handlers, l.filters)

/-- What others have attached to a logger, in its order. -/
def others (l : Logger) : List Handler × List Filter :=
  (l.handlers.filter (·.target = .foreign), l.filters.filter (·.segment = none))

variable {l : Logger}

theorem others_addHandler {h : Handler} (hours : h.target ≠ .foreign) : (l.addHandler h).others = l.others := by
  unfold addHandler others
  split
  · rfl
  · rw [List.filter_append, List.filter_cons_of_neg (by simpa using hours), List.filter_nil, List.append_nil]

theorem others_addFilter {f : Filter} (hours : f.segment ≠ none) : (l.addFilter f).others = l.others := by
  unfold addFilter others
  split
  · rfl
  · rw [List.filter_append, List.filter_cons_of_neg (by simpa using hours), List.filter_nil, List.append_nil]

end Logger

/-- Where what is taken away lacks a property, the elements with it stay. -/
theorem filter_diff {α : Type} [DecidableEq α] {p : α → Bool} {taken : List α} (htaken : ∀ a ∈ taken, p a = false)
    (xs : List α) : (xs.diff taken).filter p = xs.filter p := by
  induction taken generalizing xs with
  | nil => rw [List.diff_nil]
  | cons a taken ih =>
    rw [List.forall_mem_cons] at htaken
    have hnotMem : a ∉ xs.filter p := by
      rw [List.mem_filter, htaken.1]
      simp
    rw [List.diff_cons, ih htaken.2, ← List.erase_filter, List.erase_of_not_mem hnotMem]

section Others

variable {j : Journal} {name other : String}

theorem others_update {change : Logger → Logger} (hchange : ∀ l, (change l).others = l.others) :
    ((j.update name change).logger other).others = (j.logger other).others := by
  rw [logger_update]
  split
  · rename_i heq
    rw [hchange, heq]
  · rfl

theorem others_attach {handler : Handler} (hours : handler.target ≠ .foreign) :
    ((j.attach name handler).logger other).others = (j.logger other).others :=
  others_update fun _ => Logger.others_addHandler hours

theorem others_openErrorLog (j : Journal) (files : LogFiles) (name : String) :
    ((j.openErrorLog files).logger name).others = (j.logger name).others := by
  have hours : (⟨j.nextId, .errorLog (files.pathFor "error")⟩ : Handler).target ≠ .foreign := by simp
  exact others_attach (j := { j with nextId := j.nextId + 1 }) hours

theorem others_setLevel (j : Journal) (level : Level) (name : String) :
    ((j.setLevel level).logger name).others = (j.logger name).others :=
  others_update fun _ => rfl

theorem others_prepareSegment (j : Journal) (files : LogFiles) (segment name : String) :
    ((j.prepareSegment files segment).logger name).others = (j.logger name).others := by
  rw [Routes.logger_prepareSegment]
  split
  · rw [Logger.others_addFilter (by simp)]
    rfl
  · rfl

theorem others_openSegmentLog {e : Handler} (he : j.errorHandler = some e) (herrors : e.writesErrors = true)
    (files : LogFiles) (segment name : String) :
    ((j.openSegmentLog files segment).logger name).others = (j.logger name).others := by
  rw [Routes.logger_openSegmentLog he]
  split
  · rw [Logger.others_addHandler (Handler.target_ne_foreign herrors), Logger.others_addHandler (by simp)]
  · rfl

end Others

/-! ## What is recorded -/

/-- Everything that is recorded is attached, and none of it belongs to others. -/
structure Attached (j : Journal) : Prop extends Recorded j where
  attached_handlers : ∀ x ∈ j.handlers, x.2 ∈ (j.logger x.1).handlers ∧ x.2.target ≠ .foreign
  attached_filters : ∀ x ∈ j.filters, x.2 ∈ (j.logger x.1).filters ∧ x.2.segment ≠ none

namespace Attached

variable {j : Journal} {name : String}

/-- What a logger has attached and what is recorded for it are the same but for what belongs to others. -/
theorem mem_handlers (h : j.Attached) {handler : Handler} :
    (name, handler) ∈ j.handlers ↔ handler ∈ (j.logger name).handlers ∧ handler.target ≠ .foreign :=
  ⟨fun hmem => h.attached_handlers _ hmem, fun hmem => h.handlers name handler hmem.1 hmem.2⟩

theorem mem_filters (h : j.Attached) {filter : Filter} :
    (name, filter) ∈ j.filters ↔ filter ∈ (j.logger name).filters ∧ filter.segment ≠ none :=
  ⟨fun hmem => h.attached_filters _ hmem, fun hmem => h.filters name filter hmem.1 hmem.2⟩

theorem attach (h : j.Attached) (name : String) {handler : Handler} (hours : handler.target ≠ .foreign)
    (hid : handler.id < j.nextId) : (j.attach name handler).Attached where
  toRecorded := h.toRecorded.attach name hid
  attached_handlers := by
    refine List.forall_mem_append.2 ⟨fun x hx => ?_, List.forall_mem_singleton.2 ⟨?_, hours⟩⟩
    · exact ⟨mem_handlers_logger_attach.2 (.inl (h.attached_handlers x hx).1), (h.attached_handlers x hx).2⟩
    · exact mem_handlers_logger_attach.2 (.inr ⟨rfl, rfl⟩)
  attached_filters x hx := by
    rw [filters_logger_attach]
    exact h.attached_filters x hx

theorem of_eq {j' : Journal} (h : j.Attached) (hloggers : j'.loggers = j.loggers)
    (hhandlers : j'.handlers = j.handlers) (hfilters : j'.filters = j.filters) (hnext : j.nextId ≤ j'.nextId) :
    j'.Attached := by
  have hlogger : ∀ name, j'.logger name = j.logger name := fun name => by
    rw [logger, logger, hloggers]
  refine ⟨h.toRecorded.of_eq hloggers hhandlers hfilters hnext, fun x hx => ?_, fun x hx => ?_⟩
  · rw [hlogger]
    exact h.attached_handlers x (hhandlers ▸ hx)
  · rw [hlogger]
    exact h.attached_filters x (hfilters ▸ hx)

/-- A reset leaves what others have. -/
theorem others_reset (h : j.Attached) (name : String) : (j.reset.logger name).others = (j.logger name).others := by
  have hhandlers : ∀ x ∈ (j.handlers.filter (·.1 = name)).map (·.2), decide (x.target = .foreign) = false := by
    intro x hx
    obtain ⟨y, hy, rfl⟩ := List.mem_map.1 hx
    exact decide_eq_false (h.attached_handlers y (List.mem_filter.1 hy).1).2
  have hfilters : ∀ x ∈ (j.filters.filter (·.1 = name)).map (·.2), decide (x.segment = none) = false := by
    intro x hx
    obtain ⟨y, hy, rfl⟩ := List.mem_map.1 hx
    exact decide_eq_false (h.attached_filters y (List.mem_filter.1 hy).1).2
  rw [logger_reset, Logger.others, Logger.others, filter_diff hhandlers, filter_diff hfilters]

end Attached

/-- What is recorded is what is attached, log files are set up together with the handler for errors, and that one is
the only handler for errors that any logger has. -/
structure Owned (j : Journal) : Prop extends Attached j where
  set_up : ∀ files, j.files = some files → ∃ e, j.errorHandler = some e
  error : ∀ e, j.errorHandler = some e → e.writesErrors = true ∧ (packageName, e) ∈ j.handlers
  only_error : ∀ x ∈ j.handlers, x.2.writesErrors = true → j.errorHandler = some x.2

/-- Nothing of this library is attached anywhere, and nothing is kept for new loggers. -/
structure Idle (j : Journal) : Prop extends Bare j where
  no_error : j.errorHandler = none

theorem idle_empty : Idle empty :=
  ⟨bare_empty, rfl⟩

namespace Idle

variable {j : Journal}

theorem attached (h : j.Idle) : j.Attached where
  toRecorded := h.toRecorded
  attached_handlers x hx := by
    rw [h.no_handlers] at hx
    cases hx
  attached_filters x hx := by
    rw [h.no_filters] at hx
    cases hx

theorem owned (h : j.Idle) : j.Owned where
  toAttached := h.attached
  set_up files hfiles := by
    rw [h.no_files] at hfiles
    cases hfiles
  error e he := by
    rw [h.no_error] at he
    cases he
  only_error x hx := by
    rw [h.no_handlers] at hx
    cases hx

theorem reset_eq (h : j.Idle) : j.reset = j := by
  obtain ⟨⟨-, hhandlers, hfilters, hsegments, hfiles⟩, herror⟩ := h
  cases j
  cases hhandlers
  cases hfilters
  cases hsegments
  cases hfiles
  cases herror
  rfl

theorem setLevel (h : j.Idle) (level : Level) : (j.setLevel level).Idle :=
  ⟨h.toBare.setLevel level, h.no_error⟩

/-- The handler for errors is the first one that is recorded. -/
theorem openErrorLog (h : j.Idle) (files : LogFiles) : (j.openErrorLog files).Owned := by
  have hnext : Attached { j with nextId := j.nextId + 1 } := h.attached.of_eq rfl rfl rfl (Nat.le_succ _)
  have hours : (⟨j.nextId, .errorLog (files.pathFor "error")⟩ : Handler).target ≠ .foreign := by simp
  have hattached := hnext.attach packageName hours (Nat.lt_succ_self j.nextId)
  have hhandlers : (j.openErrorLog files).handlers =
      [(packageName, ⟨j.nextId, .errorLog (files.pathFor "error")⟩)] :=
    congrArg (· ++ _) h.no_handlers
  refine ⟨hattached.of_eq rfl rfl rfl (Nat.le_refl _), fun _ _ => ⟨_, rfl⟩, fun e he => ?_, fun x hx _ => ?_⟩
  · cases he
    rw [hhandlers]
    exact ⟨rfl, List.mem_singleton.2 rfl⟩
  · rw [hhandlers] at hx
    rw [List.mem_singleton.1 hx]
    rfl

end Idle

namespace Owned

variable {j : Journal} {segment : String}

/-- Each logger has at most one handler for errors. -/
theorem countP_writesErrors (h : j.Owned) (name : String) :
    (j.logger name).handlers.countP (·.writesErrors) ≤ 1 := by
  have hsame : ∀ x ∈ (j.logger name).handlers.filter (·.writesErrors), j.errorHandler = some x := by
    intro x hx
    obtain ⟨hmem, herrors⟩ := List.mem_filter.1 hx
    exact h.only_error (name, x) (h.handlers name x hmem (Handler.target_ne_foreign herrors)) herrors
  have hnodup := (h.nodup_handlers name).filter (·.writesErrors)
  rw [List.countP_eq_length_filter]
  cases hlist : (j.logger name).handlers.filter (·.writesErrors) with
  | nil => exact Nat.zero_le 1
  | cons x xs =>
    rw [hlist] at hsame hnodup
    rw [List.forall_mem_cons] at hsame
    cases xs with
    | nil => exact Nat.le_refl 1
    | cons y ys =>
      -- A second one would be the first one again.
      have hxy := hsame.1.symm.trans (hsame.2 y List.mem_cons_self)
      cases hxy
      exact absurd List.mem_cons_self (List.nodup_cons.1 hnodup).1

theorem reset (h : j.Owned) : j.reset.Idle :=
  ⟨h.toRecorded.reset, rfl⟩

/-- Preparing a logger records its tag. -/
theorem prepareSegment (h : j.Owned) (files : LogFiles) (segment : String) :
    (j.prepareSegment files segment).Owned where
  toRecorded := Routes.recorded_prepareSegment h.toRecorded files segment
  attached_handlers x hx := by
    rw [Routes.handlers_prepareSegment]
    exact h.attached_handlers x hx
  attached_filters := by
    refine List.forall_mem_append.2 ⟨fun x hx => ⟨?_, (h.attached_filters x hx).2⟩,
      List.forall_mem_singleton.2 ⟨?_, by simp⟩⟩
    · have hmem := (h.attached_filters x hx).1
      rw [Routes.logger_prepareSegment]
      split
      · exact Logger.mem_filters_addFilter.2 (.inl hmem)
      · exact hmem
    · rw [Routes.logger_prepareSegment, if_pos rfl]
      exact Logger.mem_filters_addFilter.2 (.inr rfl)
  set_up := h.set_up
  error := h.error
  only_error := h.only_error

/-- Opening the log of a segment records its own handler and the one for errors. -/
theorem openSegmentLog (h : j.Owned) {e : Handler} (he : j.errorHandler = some e) (files : LogFiles)
    (segment : String) : (j.openSegmentLog files segment).Owned := by
  obtain ⟨herrors, hrecorded⟩ := h.error e he
  have hnext : Attached { j with nextId := j.nextId + 1 } := h.toAttached.of_eq rfl rfl rfl (Nat.le_succ _)
  have hours : (⟨j.nextId, .segmentLog (files.pathFor (safeName segment))⟩ : Handler).target ≠ .foreign := by simp
  have hown := hnext.attach (segmentLoggerName segment) hours (Nat.lt_succ_self j.nextId)
  have hboth := hown.attach (segmentLoggerName segment) (Handler.target_ne_foreign herrors)
    (Nat.lt_succ_of_lt (h.handler_lt _ hrecorded))
  rw [Routes.openSegmentLog_eq he]
  refine ⟨hboth.of_eq rfl rfl rfl (Nat.le_refl _), fun _ _ => ⟨e, he⟩, fun e' he' => ?_, ?_⟩
  · obtain ⟨herrors', hrecorded'⟩ := h.error e' he'
    exact ⟨herrors', List.mem_append_left _ (List.mem_append_left _ hrecorded')⟩
  · refine List.forall_mem_append.2 ⟨List.forall_mem_append.2 ⟨h.only_error, ?_⟩, ?_⟩
    · exact List.forall_mem_singleton.2 nofun
    · exact List.forall_mem_singleton.2 fun _ => he

end Owned

end Segmentation.Journal
