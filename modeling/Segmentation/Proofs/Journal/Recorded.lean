import Segmentation.Proofs.Journal.Loggers
import Mathlib.Data.List.Nodup

/-!
# What a journal has attached

* `Journal.Recorded`: every handler for a log file and every tag that a logger has is recorded, so that a reset
  can take it away. Other handlers and filters may be there too.
* `Journal.Bare`: nothing of this library is attached to any logger.
* `Journal.Recorded.reset`: this is how a reset leaves the loggers.
-/

namespace Segmentation.Journal

namespace Logger

variable {l : Logger} {h x : Handler} {f g : Filter}

@[simp] theorem level_addHandler : (l.addHandler h).level = l.level := by
  unfold addHandler
  split <;> rfl

@[simp] theorem passesOn_addHandler : (l.addHandler h).passesOn = l.passesOn := by
  unfold addHandler
  split <;> rfl

@[simp] theorem filters_addHandler : (l.addHandler h).filters = l.filters := by
  unfold addHandler
  split <;> rfl

@[simp] theorem level_addFilter : (l.addFilter f).level = l.level := by
  unfold addFilter
  split <;> rfl

@[simp] theorem passesOn_addFilter : (l.addFilter f).passesOn = l.passesOn := by
  unfold addFilter
  split <;> rfl

@[simp] theorem handlers_addFilter : (l.addFilter f).handlers = l.handlers := by
  unfold addFilter
  split <;> rfl

theorem handlers_addHandler_of_notMem (hnew : h ∉ l.handlers) :
    (l.addHandler h).handlers = l.handlers ++ [h] := by
  rw [addHandler, if_neg hnew]

theorem filters_addFilter_of_notMem (hnew : f ∉ l.filters) : (l.addFilter f).filters = l.filters ++ [f] := by
  rw [addFilter, if_neg hnew]

theorem mem_handlers_addHandler : x ∈ (l.addHandler h).handlers ↔ x ∈ l.handlers ∨ x = h := by
  by_cases hold : h ∈ l.handlers
  · rw [addHandler, if_pos hold]
    exact ⟨.inl, fun hx => hx.elim id fun heq => heq ▸ hold⟩
  · rw [handlers_addHandler_of_notMem hold, List.mem_append, List.mem_singleton]

theorem mem_filters_addFilter : g ∈ (l.addFilter f).filters ↔ g ∈ l.filters ∨ g = f := by
  by_cases hold : f ∈ l.filters
  · rw [addFilter, if_pos hold]
    exact ⟨.inl, fun hx => hx.elim id fun heq => heq ▸ hold⟩
  · rw [filters_addFilter_of_notMem hold, List.mem_append, List.mem_singleton]

theorem nodup_handlers_addHandler (hl : l.handlers.Nodup) : (l.addHandler h).handlers.Nodup := by
  by_cases hold : h ∈ l.handlers
  · rwa [addHandler, if_pos hold]
  · rw [handlers_addHandler_of_notMem hold]
    exact hl.append (List.nodup_singleton h) (List.disjoint_singleton.2 hold)

theorem nodup_filters_addFilter (hl : l.filters.Nodup) : (l.addFilter f).filters.Nodup := by
  by_cases hold : f ∈ l.filters
  · rwa [addFilter, if_pos hold]
  · rw [filters_addFilter_of_notMem hold]
    exact hl.append (List.nodup_singleton f) (List.disjoint_singleton.2 hold)

end Logger

/-- Every handler for a log file and every tag that a logger has is recorded, under a number that has been
given out. The loggers above those of segments have the levels that they start with. -/
structure Recorded (j : Journal) : Prop where
  handlers : ∀ name, ∀ h ∈ (j.logger name).handlers, h.target ≠ .foreign → (name, h) ∈ j.handlers
  filters : ∀ name, ∀ f ∈ (j.logger name).filters, f.segment ≠ none → (name, f) ∈ j.filters
  nodup_handlers : ∀ name, (j.logger name).handlers.Nodup
  nodup_filters : ∀ name, (j.logger name).filters.Nodup
  handler_lt : ∀ x ∈ j.handlers, x.2.id < j.nextId
  filter_lt : ∀ x ∈ j.filters, x.2.id < j.nextId
  segments : (j.logger segmentsName).level = .notSet
  root : (j.logger "root").level = .warning

/-- Moreover, nothing is recorded, so that only others have attached anything, and log files are not set
up. -/
structure Bare (j : Journal) : Prop extends Recorded j where
  no_handlers : j.handlers = []
  no_filters : j.filters = []
  no_segments : j.segmentLoggers = []
  no_files : j.files = none

theorem bare_empty : Bare empty := by
  have hnone : ∀ name, (empty.logger name).handlers = [] ∧ (empty.logger name).filters = [] := by
    intro name
    unfold Journal.logger
    by_cases hroot : name = "root" <;> simp [empty, hroot, Logger.plain, Logger.root]
  refine ⟨⟨?_, ?_, ?_, ?_, nofun, nofun, ?_, ?_⟩, rfl, rfl, rfl, rfl⟩
  · intro name h hh
    rw [(hnone name).1] at hh
    cases hh
  · intro name f hf
    rw [(hnone name).2] at hf
    cases hf
  · intro name
    rw [(hnone name).1]
    exact .nil
  · intro name
    rw [(hnone name).2]
    exact .nil
  · decide +kernel
  · decide +kernel

section Attach

variable {j : Journal} {name other : String} {handler x : Handler} {filter f : Filter}

@[simp] theorem level_logger_attach : ((j.attach name handler).logger other).level = (j.logger other).level := by
  rw [logger_attach]
  split <;> simp [*]

@[simp] theorem filters_logger_attach :
    ((j.attach name handler).logger other).filters = (j.logger other).filters := by
  rw [logger_attach]
  split <;> simp [*]

@[simp] theorem level_logger_attachFilter :
    ((j.attachFilter name filter).logger other).level = (j.logger other).level := by
  rw [logger_attachFilter]
  split <;> simp [*]

@[simp] theorem handlers_logger_attachFilter :
    ((j.attachFilter name filter).logger other).handlers = (j.logger other).handlers := by
  rw [logger_attachFilter]
  split <;> simp [*]

theorem mem_handlers_logger_attach :
    x ∈ ((j.attach name handler).logger other).handlers ↔
      x ∈ (j.logger other).handlers ∨ other = name ∧ x = handler := by
  rw [logger_attach]
  split
  · rename_i heq
    rw [Logger.mem_handlers_addHandler, heq]
    simp
  · simp [*]

theorem mem_filters_logger_attachFilter :
    f ∈ ((j.attachFilter name filter).logger other).filters ↔
      f ∈ (j.logger other).filters ∨ other = name ∧ f = filter := by
  rw [logger_attachFilter]
  split
  · rename_i heq
    rw [Logger.mem_filters_addFilter, heq]
    simp
  · simp [*]

end Attach

namespace Recorded

variable {j j' : Journal} {name : String}

/-- What the loggers have and what is recorded decide, and numbers may be skipped. -/
theorem of_eq (h : j.Recorded) (hloggers : j'.loggers = j.loggers) (hhandlers : j'.handlers = j.handlers)
    (hfilters : j'.filters = j.filters) (hnext : j.nextId ≤ j'.nextId) : j'.Recorded := by
  have hlogger : ∀ name, j'.logger name = j.logger name := fun name => by
    rw [logger, logger, hloggers]
  constructor
  · exact fun name x hx hours => hhandlers ▸ h.handlers name x (hlogger name ▸ hx) hours
  · exact fun name f hf hours => hfilters ▸ h.filters name f (hlogger name ▸ hf) hours
  · exact fun name => hlogger name ▸ h.nodup_handlers name
  · exact fun name => hlogger name ▸ h.nodup_filters name
  · exact fun x hx => Nat.lt_of_lt_of_le (h.handler_lt x (hhandlers ▸ hx)) hnext
  · exact fun x hx => Nat.lt_of_lt_of_le (h.filter_lt x (hfilters ▸ hx)) hnext
  · exact hlogger segmentsName ▸ h.segments
  · exact hlogger "root" ▸ h.root

/-- Changing more than the handlers and filters of a logger. -/
theorem update (h : j.Recorded) {change : Logger → Logger} (hhandlers : ∀ l, (change l).handlers = l.handlers)
    (hfilters : ∀ l, (change l).filters = l.filters) (hsegments : segmentsName ≠ name) (hroot : "root" ≠ name) :
    (j.update name change).Recorded := by
  have hkept : ∀ other, ((j.update name change).logger other).handlers = (j.logger other).handlers ∧
      ((j.update name change).logger other).filters = (j.logger other).filters := by
    intro other
    rw [logger_update]
    split
    · rename_i heq
      rw [hhandlers, hfilters, heq]
      exact ⟨rfl, rfl⟩
    · exact ⟨rfl, rfl⟩
  constructor
  · exact fun other x hx => h.handlers other x ((hkept other).1 ▸ hx)
  · exact fun other f hf => h.filters other f ((hkept other).2 ▸ hf)
  · exact fun other => (hkept other).1 ▸ h.nodup_handlers other
  · exact fun other => (hkept other).2 ▸ h.nodup_filters other
  · exact h.handler_lt
  · exact h.filter_lt
  · rw [logger_update, if_neg hsegments]
    exact h.segments
  · rw [logger_update, if_neg hroot]
    exact h.root

theorem attach (h : j.Recorded) (name : String) {handler : Handler} (hid : handler.id < j.nextId) :
    (j.attach name handler).Recorded := by
  constructor
  · intro other x hx hours
    rcases mem_handlers_logger_attach.1 hx with hx | ⟨rfl, rfl⟩
    · exact List.mem_append_left _ (h.handlers other x hx hours)
    · exact List.mem_append_right _ (List.mem_singleton.2 rfl)
  · intro other f hf
    rw [filters_logger_attach] at hf
    exact h.filters other f hf
  · intro other
    rw [logger_attach]
    split
    · exact Logger.nodup_handlers_addHandler (h.nodup_handlers name)
    · exact h.nodup_handlers other
  · intro other
    rw [filters_logger_attach]
    exact h.nodup_filters other
  · exact List.forall_mem_append.2 ⟨h.handler_lt, List.forall_mem_singleton.2 hid⟩
  · exact h.filter_lt
  · rw [level_logger_attach]
    exact h.segments
  · rw [level_logger_attach]
    exact h.root

theorem attachFilter (h : j.Recorded) (name : String) {filter : Filter} (hid : filter.id < j.nextId) :
    (j.attachFilter name filter).Recorded := by
  constructor
  · intro other x hx
    rw [handlers_logger_attachFilter] at hx
    exact h.handlers other x hx
  · intro other f hf hours
    rcases mem_filters_logger_attachFilter.1 hf with hf | ⟨rfl, rfl⟩
    · exact List.mem_append_left _ (h.filters other f hf hours)
    · exact List.mem_append_right _ (List.mem_singleton.2 rfl)
  · intro other
    rw [handlers_logger_attachFilter]
    exact h.nodup_handlers other
  · intro other
    rw [logger_attachFilter]
    split
    · exact Logger.nodup_filters_addFilter (h.nodup_filters name)
    · exact h.nodup_filters other
  · exact h.handler_lt
  · exact List.forall_mem_append.2 ⟨h.filter_lt, List.forall_mem_singleton.2 hid⟩
  · rw [level_logger_attachFilter]
    exact h.segments
  · rw [level_logger_attachFilter]
    exact h.root

/-- After a reset only others have anything attached. -/
theorem reset (h : j.Recorded) : j.reset.Bare where
  handlers name x hx hours := by
    rw [logger_reset, (h.nodup_handlers name).mem_sdiff_iff] at hx
    have hrecorded : x ∈ (j.handlers.filter (·.1 = name)).map (·.2) :=
      List.mem_map.2 ⟨(name, x), List.mem_filter.2 ⟨h.handlers name x hx.1 hours, by simp⟩, rfl⟩
    exact absurd hrecorded hx.2
  filters name f hf hours := by
    rw [logger_reset, (h.nodup_filters name).mem_sdiff_iff] at hf
    have hrecorded : f ∈ (j.filters.filter (·.1 = name)).map (·.2) :=
      List.mem_map.2 ⟨(name, f), List.mem_filter.2 ⟨h.filters name f hf.1 hours, by simp⟩, rfl⟩
    exact absurd hrecorded hf.2
  nodup_handlers name := by
    rw [logger_reset]
    exact (h.nodup_handlers name).diff
  nodup_filters name := by
    rw [logger_reset]
    exact (h.nodup_filters name).diff
  handler_lt := nofun
  filter_lt := nofun
  segments := by
    rw [logger_reset]
    exact h.segments
  root := by
    rw [logger_reset]
    exact h.root
  no_handlers := rfl
  no_filters := rfl
  no_segments := rfl
  no_files := rfl

end Recorded

end Segmentation.Journal
