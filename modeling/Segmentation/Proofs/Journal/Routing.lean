import Segmentation.Proofs.Journal.Recorded

/-!
# Where messages of segments go

* `Journal.Routes`: what the loggers of segments have attached once log files are set up, for each logger
  what all segments with its safe name have brought along.
* `Journal.Bare.setUp`, `Journal.Routes.prepareSegment`, `Journal.Routes.openSegmentLog`: this is how setting up
  leaves them, and asking for the logger of one more segment keeps it.
* `Journal.Routes.entries`: so a message becomes one line in the segment's log for each segment that shares the
  logger, and one in the log for errors if it is an error.
-/

namespace Segmentation

open Journal

/-- The least level of the messages that are written: the configured one, and where that is not set the one
of the root. -/
def LogFiles.threshold (files : LogFiles) : Level :=
  if files.level = .notSet then .warning else files.level

namespace Journal

/-- The handlers of this library that a logger has, by what they do. -/
def Logger.targets (l : Logger) : List Target :=
  (l.handlers.map (·.target)).filter (· ≠ .foreign)

/-- The tags that the filters of a logger stamp messages with, one after the other. -/
def Logger.tags (l : Logger) : List String :=
  l.filters.filterMap (·.segment)

theorem Logger.tag?_eq (l : Logger) : l.tag? = l.tags.getLast? := by
  rw [tag?, tags, List.getLast?_filterMap]

theorem Logger.tags_addFilter {l : Logger} {f : Filter} (hnew : f ∉ l.filters) :
    (l.addFilter f).tags = l.tags ++ f.segment.toList := by
  rw [tags, filters_addFilter_of_notMem hnew, List.filterMap_append, tags]
  cases hf : f.segment <;> simp [hf]

theorem Logger.targets_addHandler {l : Logger} {h : Handler} (hnew : h ∉ l.handlers)
    (hours : h.target ≠ .foreign) : (l.addHandler h).targets = l.targets ++ [h.target] := by
  rw [targets, handlers_addHandler_of_notMem hnew, List.map_append, List.filter_append, targets,
    List.map_singleton, List.filter_cons_of_pos (by simpa using hours), List.filter_nil]

/-- What a logger has attached when the logs of `n` segments that share it have been opened. -/
def sharedTargets (own errors : Path) : Nat → List Target
  | 0 => []
  | n + 1 => .segmentLog own :: .errorLog errors :: List.replicate n (.segmentLog own)

theorem sharedTargets_succ (own errors : Path) {n : Nat} (h : 0 < n) :
    sharedTargets own errors (n + 1) = sharedTargets own errors n ++ [.segmentLog own] := by
  cases n with
  | zero => cases h
  | succ n => rw [sharedTargets, sharedTargets, List.replicate_succ', List.cons_append, List.cons_append]

/-- One more segment adds its own handler; only the first one finds no handler for errors there. -/
theorem Logger.targets_addHandler_addHandler {l : Logger} {own errors : Path} {n : Nat} {x e : Handler}
    (hl : l.targets = sharedTargets own errors n) (hthere : e ∈ l.handlers ↔ 0 < n) (hnew : x ∉ l.handlers)
    (hx : x.target = .segmentLog own) (he : e.target = .errorLog errors) :
    ((l.addHandler x).addHandler e).targets = sharedTargets own errors (n + 1) := by
  have hown : (l.addHandler x).targets = sharedTargets own errors n ++ [.segmentLog own] := by
    rw [targets_addHandler hnew (by simp [hx]), hl, hx]
  by_cases hn : 0 < n
  · rw [addHandler, if_pos (mem_handlers_addHandler.2 (.inl (hthere.2 hn))), hown, sharedTargets_succ _ _ hn]
  · have hnotMem : e ∉ (l.addHandler x).handlers := by
      rw [mem_handlers_addHandler, hthere, not_or]
      refine ⟨hn, ?_⟩
      rintro rfl
      cases hx.symm.trans he
    obtain rfl : n = 0 := by omega
    rw [targets_addHandler hnotMem (by simp [he]), hown, he]
    rfl

/-- The number of segments whose logs have been opened for a logger. -/
def sharing (j : Journal) (name : String) : Nat :=
  j.segmentLoggers.countP (·.2 = name)

/-- Log files are set up, and loggers have been prepared for the segments `prepared`, in this order. All
segments with one safe name share a logger. It writes to the log of that name once for each of them whose log
could be opened, once to the log for errors, and it stamps messages with their names, so with the last one. -/
structure Routes (files : LogFiles) (prepared : List String) (j : Journal) : Prop extends Recorded j where
  files_eq : j.files = some files
  errorLog : ∃ e, j.errorHandler = some e ∧ e.target = .errorLog (files.pathFor "error") ∧ e.id < j.nextId ∧
    ∀ s, e ∈ (j.logger (segmentLoggerName s)).handlers ↔ 0 < j.sharing (segmentLoggerName s)
  package : (j.logger packageName).level = files.level
  known : ∀ x ∈ j.segmentLoggers, x.2 = segmentLoggerName x.1 ∧ x.1 ∈ prepared
  distinct : (j.segmentLoggers.map (·.1)).Nodup
  ready : ∀ s ∈ prepared, (j.logger (segmentLoggerName s)).level = files.level ∧
    (j.logger (segmentLoggerName s)).passesOn = false
  tags : ∀ s, (j.logger (segmentLoggerName s)).tags = prepared.filter (safeName · = safeName s)
  targets : ∀ s, (j.logger (segmentLoggerName s)).targets =
    sharedTargets (files.pathFor (safeName s)) (files.pathFor "error") (j.sharing (segmentLoggerName s))

variable {files : LogFiles} {prepared : List String} {j : Journal} {segment name : String}

theorem Recorded.notMem_handlers (h : j.Recorded) {x : Handler} (hours : x.target ≠ .foreign)
    (hid : j.nextId ≤ x.id) : x ∉ (j.logger name).handlers := by
  intro hx
  have := h.handler_lt _ (h.handlers name x hx hours)
  dsimp only at this
  omega

theorem Recorded.notMem_filters (h : j.Recorded) {f : Filter} (hours : f.segment ≠ none)
    (hid : j.nextId ≤ f.id) : f ∉ (j.logger name).filters := by
  intro hf
  have := h.filter_lt _ (h.filters name f hf hours)
  dsimp only at this
  omega

theorem Recorded.openErrorLog (h : j.Recorded) (files : LogFiles) : (j.openErrorLog files).Recorded := by
  have hnext : Recorded { j with nextId := j.nextId + 1 } := h.of_eq rfl rfl rfl (Nat.le_succ _)
  exact (hnext.attach packageName (Nat.lt_succ_self j.nextId)).of_eq rfl rfl rfl (Nat.le_refl _)

namespace Bare

/-- All that a logger has belongs to others. -/
theorem forall_foreign (h : j.Bare) (name : String) :
    (∀ x ∈ (j.logger name).handlers, x.target = .foreign) ∧ ∀ f ∈ (j.logger name).filters, f.segment = none := by
  refine ⟨fun x hx => ?_, fun f hf => ?_⟩
  · by_contra hours
    have hrecorded := h.handlers name x hx hours
    rw [h.no_handlers] at hrecorded
    cases hrecorded
  · by_contra hours
    have hrecorded := h.filters name f hf hours
    rw [h.no_filters] at hrecorded
    cases hrecorded

theorem targets_logger (h : j.Bare) (name : String) : (j.logger name).targets = [] := by
  rw [Logger.targets, List.filter_eq_nil_iff]
  intro target htarget
  obtain ⟨x, hx, rfl⟩ := List.mem_map.1 htarget
  simpa using (h.forall_foreign name).1 x hx

theorem tags_logger (h : j.Bare) (name : String) : (j.logger name).tags = [] := by
  rw [Logger.tags, List.filterMap_eq_nil_iff]
  exact (h.forall_foreign name).2

theorem setLevel (h : j.Bare) (level : Level) : (j.setLevel level).Bare where
  toRecorded := h.toRecorded.update (fun _ => rfl) (fun _ => rfl) (by decide) (by decide)
  no_handlers := h.no_handlers
  no_filters := h.no_filters
  no_segments := h.no_segments
  no_files := h.no_files

theorem logger_setUp (j : Journal) (files : LogFiles) (segment : String) :
    ((j.setLevel files.level).openErrorLog files).logger (segmentLoggerName segment) =
      j.logger (segmentLoggerName segment) := by
  have hlevel : (j.setLevel files.level).logger (segmentLoggerName segment) = j.logger (segmentLoggerName segment) := by
    rw [Journal.setLevel, logger_update, if_neg (segmentLoggerName_ne_package segment)]
  refine (logger_attach _ _ _ _).trans ?_
  rw [if_neg (segmentLoggerName_ne_package segment)]
  exact hlevel

/-- Setting up log files opens the log for errors only. -/
theorem setUp (h : j.Bare) (files : LogFiles) : ((j.setLevel files.level).openErrorLog files).Routes files [] := by
  have hnone : ((j.setLevel files.level).openErrorLog files).segmentLoggers = [] := h.no_segments
  have hsharing : ∀ name, ((j.setLevel files.level).openErrorLog files).sharing name = 0 := by
    intro name
    rw [sharing, hnone]
    rfl
  exact {
    toRecorded := (h.setLevel files.level).toRecorded.openErrorLog files
    files_eq := rfl
    errorLog := by
      refine ⟨_, rfl, rfl, Nat.lt_succ_self _, fun s => ?_⟩
      rw [logger_setUp, hsharing]
      exact iff_of_false (h.toRecorded.notMem_handlers (by simp) (Nat.le_refl _)) (Nat.lt_irrefl 0)
    package := by
      change (Journal.logger (Journal.attach _ _ _) packageName).level = files.level
      rw [level_logger_attach]
      change ((j.setLevel files.level).logger packageName).level = files.level
      rw [Journal.setLevel, logger_update, if_pos rfl]
    known := by
      rw [hnone]
      exact nofun
    distinct := by
      rw [hnone]
      exact .nil
    ready := nofun
    tags := by
      intro s
      rw [logger_setUp, h.tags_logger]
      rfl
    targets := by
      intro s
      rw [logger_setUp, h.targets_logger, hsharing]
      rfl }

end Bare

namespace Routes

theorem logger_prepareSegment (j : Journal) (files : LogFiles) (segment name : String) :
    (j.prepareSegment files segment).logger name =
      if name = segmentLoggerName segment then
        { j.logger name with level := files.level, passesOn := false }.addFilter ⟨j.nextId, some segment⟩
      else j.logger name := by
  have hset := logger_update j (segmentLoggerName segment)
    (fun l => { l with level := files.level, passesOn := false })
  refine (logger_attachFilter _ _ _ _).trans ?_
  by_cases h : name = segmentLoggerName segment
  · subst h
    rw [if_pos rfl, if_pos rfl]
    exact congrArg (Logger.addFilter · _) ((hset _).trans (if_pos rfl))
  · rw [if_neg h, if_neg h]
    exact (hset _).trans (if_neg h)

theorem handlers_prepareSegment (j : Journal) (files : LogFiles) (segment name : String) :
    ((j.prepareSegment files segment).logger name).handlers = (j.logger name).handlers := by
  rw [logger_prepareSegment]
  split
  · rw [Logger.handlers_addFilter]
  · rfl

theorem recorded_prepareSegment (h : j.Recorded) (files : LogFiles) (segment : String) :
    (j.prepareSegment files segment).Recorded := by
  have hset : Recorded (j.update (segmentLoggerName segment) fun l =>
      { l with level := files.level, passesOn := false }) :=
    h.update (fun _ => rfl) (fun _ => rfl) (segmentLoggerName_ne_segments segment).symm
      (segmentLoggerName_ne_root segment).symm
  have hnext : Recorded { j.update (segmentLoggerName segment) fun l =>
      { l with level := files.level, passesOn := false } with nextId := j.nextId + 1 } :=
    hset.of_eq rfl rfl rfl (Nat.le_succ _)
  exact hnext.attachFilter (segmentLoggerName segment) (Nat.lt_succ_self j.nextId)

/-- Preparing a logger adds a tag to it. -/
theorem prepareSegment (h : j.Routes files prepared) (segment : String) :
    (j.prepareSegment files segment).Routes files (prepared ++ [segment]) where
  toRecorded := recorded_prepareSegment h.toRecorded files segment
  files_eq := h.files_eq
  errorLog := by
    obtain ⟨e, he, htarget, hid, hthere⟩ := h.errorLog
    exact ⟨e, he, htarget, Nat.lt_succ_of_lt hid, fun s => handlers_prepareSegment j .. ▸ hthere s⟩
  package := by
    rw [logger_prepareSegment, if_neg (segmentLoggerName_ne_package segment).symm]
    exact h.package
  known x hx := ⟨(h.known x hx).1, List.mem_append_left _ (h.known x hx).2⟩
  distinct := h.distinct
  ready := by
    intro s hs
    rw [logger_prepareSegment]
    split
    · rw [Logger.level_addFilter, Logger.passesOn_addFilter]
      exact ⟨rfl, rfl⟩
    · rename_i hname
      rcases List.mem_append.1 hs with hs | hs
      · exact h.ready s hs
      · exact absurd (congrArg segmentLoggerName (List.mem_singleton.1 hs)) hname
  tags := by
    intro s
    have hnew : (⟨j.nextId, some segment⟩ : Filter) ∉ (j.logger (segmentLoggerName s)).filters :=
      h.toRecorded.notMem_filters (by simp) (Nat.le_refl _)
    rw [logger_prepareSegment, List.filter_append]
    split
    · rename_i hname
      have hsafe := segmentLoggerName_inj.1 hname
      have htags := Logger.tags_addFilter
        (l := { j.logger (segmentLoggerName s) with level := files.level, passesOn := false }) hnew
      refine htags.trans (congrArg₂ _ (h.tags s) ?_)
      rw [List.filter_cons_of_pos (by simpa using hsafe.symm)]
      rfl
    · rename_i hname
      have hsafe := mt segmentLoggerName_inj.2 hname
      rw [h.tags, List.filter_cons_of_neg (by simpa using Ne.symm hsafe), List.filter_nil, List.append_nil]
  targets := by
    intro s
    rw [Logger.targets, handlers_prepareSegment]
    exact h.targets s

section

variable {e : Handler}

theorem openSegmentLog_eq (he : j.errorHandler = some e) (files : LogFiles) (segment : String) :
    j.openSegmentLog files segment =
      { ({ j with nextId := j.nextId + 1 }.attach (segmentLoggerName segment)
          ⟨j.nextId, .segmentLog (files.pathFor (safeName segment))⟩).attach (segmentLoggerName segment) e with
        segmentLoggers := j.segmentLoggers ++ [(segment, segmentLoggerName segment)] } := by
  unfold Journal.openSegmentLog
  dsimp only [Journal.attach, Journal.update]
  rw [he]

theorem logger_openSegmentLog (he : j.errorHandler = some e) (files : LogFiles) (segment name : String) :
    (j.openSegmentLog files segment).logger name =
      if name = segmentLoggerName segment then
        ((j.logger name).addHandler ⟨j.nextId, .segmentLog (files.pathFor (safeName segment))⟩).addHandler e
      else j.logger name := by
  rw [openSegmentLog_eq he]
  refine (logger_attach _ _ _ _).trans ?_
  by_cases h : name = segmentLoggerName segment
  · subst h
    rw [if_pos rfl, if_pos rfl]
    exact congrArg (Logger.addHandler · e) ((logger_attach _ _ _ _).trans (if_pos rfl))
  · rw [if_neg h, if_neg h]
    exact (logger_attach _ _ _ _).trans (if_neg h)

theorem sharing_openSegmentLog (he : j.errorHandler = some e) (files : LogFiles) (segment name : String) :
    (j.openSegmentLog files segment).sharing name =
      j.sharing name + if name = segmentLoggerName segment then 1 else 0 := by
  rw [openSegmentLog_eq he, sharing, List.countP_append, List.countP_singleton]
  simp [sharing, eq_comm]

theorem recorded_openSegmentLog (h : j.Recorded) (he : j.errorHandler = some e) (hid : e.id < j.nextId)
    (files : LogFiles) (segment : String) : (j.openSegmentLog files segment).Recorded := by
  have hnext : Recorded { j with nextId := j.nextId + 1 } := h.of_eq rfl rfl rfl (Nat.le_succ _)
  have hadded : Recorded ({ j with nextId := j.nextId + 1 }.attach (segmentLoggerName segment)
      ⟨j.nextId, .segmentLog (files.pathFor (safeName segment))⟩) :=
    hnext.attach _ (Nat.lt_succ_self j.nextId)
  have hboth := hadded.attach (segmentLoggerName segment) (Nat.lt_succ_of_lt hid)
  rw [openSegmentLog_eq he]
  exact hboth.of_eq rfl rfl rfl (Nat.le_refl _)

end

/-- Opening the log of a segment adds its handler, and that of the log for errors if it is the first one. -/
theorem openSegmentLog (h : j.Routes files prepared) (hmem : segment ∈ prepared)
    (hnew : j.segmentLoggers.lookup segment = none) :
    (j.openSegmentLog files segment).Routes files prepared := by
  obtain ⟨e, he, htarget, hid, hthere⟩ := h.errorLog
  have heq := openSegmentLog_eq he files segment
  have hlogger := logger_openSegmentLog he files segment
  have hsharing := sharing_openSegmentLog he files segment
  exact {
    toRecorded := recorded_openSegmentLog h.toRecorded he hid files segment
    files_eq := by
      rw [heq]
      exact h.files_eq
    errorLog := by
      refine ⟨e, by rw [heq]; exact he, htarget, by rw [heq]; exact Nat.lt_succ_of_lt hid, fun s => ?_⟩
      rw [hlogger, hsharing]
      split
      · exact iff_of_true (Logger.mem_handlers_addHandler.2 (.inr rfl)) (Nat.succ_pos _)
      · exact hthere s
    package := by
      rw [hlogger, if_neg (segmentLoggerName_ne_package segment).symm]
      exact h.package
    known := by
      rw [heq]
      intro x hx
      rcases List.mem_append.1 hx with hx | hx
      · exact h.known x hx
      · rw [List.mem_singleton.1 hx]
        exact ⟨rfl, hmem⟩
    distinct := by
      have hnotMem : segment ∉ j.segmentLoggers.map (·.1) := by
        intro hmem
        obtain ⟨x, hx, hsegment⟩ := List.mem_map.1 hmem
        have hfound := List.lookup_eq_none_iff.1 hnew x hx
        simp [hsegment] at hfound
      rw [heq, List.map_append]
      exact h.distinct.append (List.nodup_singleton _) (List.disjoint_singleton.2 hnotMem)
    ready := by
      intro s hs
      rw [hlogger]
      split
      · rw [Logger.level_addHandler, Logger.level_addHandler, Logger.passesOn_addHandler,
          Logger.passesOn_addHandler]
        exact h.ready s hs
      · exact h.ready s hs
    tags := by
      intro s
      rw [← h.tags s, hlogger, Logger.tags, Logger.tags]
      split
      · rw [Logger.filters_addHandler, Logger.filters_addHandler]
      · rfl
    targets := by
      intro s
      rw [hlogger, hsharing]
      split
      · rename_i hname
        have hsafe := segmentLoggerName_inj.1 hname
        have hown : (⟨j.nextId, .segmentLog (files.pathFor (safeName segment))⟩ : Handler) ∉
            (j.logger (segmentLoggerName s)).handlers :=
          h.toRecorded.notMem_handlers (by simp) (Nat.le_refl _)
        exact Logger.targets_addHandler_addHandler (h.targets s) (hthere s) hown (by rw [hsafe]) htarget
      · exact h.targets s }

theorem effectiveLevel_eq (h : j.Routes files prepared) (hmem : segment ∈ prepared) :
    j.effectiveLevel (segmentLoggerName segment) = files.threshold := by
  have hlevels : (j.chain (segmentLoggerName segment)).map (·.level) =
      [files.level, .notSet, files.level, .warning] := by
    rw [chain_segmentLoggerName]
    simp only [List.map_cons, List.map_nil, (h.ready segment hmem).1, h.package, h.toRecorded.segments,
      h.toRecorded.root]
  rw [effectiveLevel, hlevels, LogFiles.threshold]
  by_cases hset : files.level = .notSet
  · rw [if_pos hset, hset]
    rfl
  · rw [if_neg hset, List.find?_cons_of_pos (by simpa using hset), Option.getD_some]

/-- The lines that a message to the logger of a segment becomes. -/
theorem entries (h : j.Routes files prepared) (hmem : segment ∈ prepared) (level : Level) (message : String) :
    j.entries (segmentLoggerName segment) level message =
      if level.number < files.threshold.number then []
      else (sharedTargets (files.pathFor (safeName segment)) (files.pathFor "error")
        (j.sharing (segmentLoggerName segment))).filterMap (Target.line? level
          (((prepared.filter (safeName · = safeName segment)).getLast?).getD (segmentLoggerName segment))
          message) := by
  have hforeign : ∀ targets : List Target, ∀ tag,
      targets.filterMap (Target.line? level tag message) =
        (targets.filter (· ≠ .foreign)).filterMap (Target.line? level tag message) := by
    intro targets tag
    rw [List.filterMap_filter]
    refine List.filterMap_congr fun target _ => ?_
    cases target with
    | foreign => simp [Target.line?, Handler.record?]
    | segmentLog file => simp
    | errorLog file => simp
  rw [entries_segmentLoggerName level message (h.ready segment hmem).2, h.effectiveLevel_eq hmem,
    Logger.tag?_eq, h.tags, hforeign, ← Logger.targets, h.targets]

end Routes

end Journal

end Segmentation
