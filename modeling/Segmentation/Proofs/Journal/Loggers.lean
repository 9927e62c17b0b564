import Segmentation.Journal
import Segmentation.Proofs.Storage.FileTree
import Segmentation.Storage.FileTree

/-!
# The loggers of a journal and their files

* `Journal.isSafe_safeName`: a safe name is made of letters, digits and hyphens.
* `LogFiles.name_place_pathFor`, `LogFiles.place_pathFor_inj`: the log files of different safe names are different
  files.
* `Journal.logger_update`, `Journal.logger_attach`, `Journal.logger_attachFilter`: a change of one logger leaves
  all others as they are.
* `Journal.logger_reset`: a reset takes from each logger what was recorded for it.
* `Journal.segmentLoggerName_inj`: segments share a logger exactly if they have the same safe name.
* `Journal.chain_segmentLoggerName`: the loggers above the logger of a segment.
* `Journal.entries_segmentLoggerName`: a logger that does not pass messages on has them written by its own
  handlers.
-/

/-! ## Names of log files -/

namespace Segmentation

open Journal Storage

namespace Journal

/-- A name with nothing but letters, digits and hyphens in it. -/
def IsSafe (name : String) : Prop :=
  ∀ c ∈ name.toList, c = '-' ∨ Text.isAlphanumeric c = true

theorem isSafe_safeName (segment : String) : IsSafe (safeName segment) := by
  intro c hc
  rw [safeName, String.toList_ofList] at hc
  obtain ⟨d, -, rfl⟩ := List.mem_map.1 hc
  split
  · exact .inr ‹_›
  · exact .inl rfl

theorem safeName_error : safeName "error" = "error" := by
  decide +kernel

theorem isSafe_error : IsSafe "error" :=
  safeName_error ▸ isSafe_safeName "error"

/-- The digits come before all other letters and numerals. -/
theorem le_toNat_of_isAlphanumeric {c : Char} (h : Text.isAlphanumeric c = true) : '0'.toNat ≤ c.toNat := by
  have hall : ∀ r ∈ Text.alphanumericRanges.toList, '0'.toNat ≤ r.1 := by decide +kernel
  unfold Text.isAlphanumeric Text.inRanges at h
  rw [List.any_eq_true] at h
  obtain ⟨r, hr, hbounds⟩ := h
  rw [Bool.and_eq_true, decide_eq_true_iff, decide_eq_true_iff] at hbounds
  exact Nat.le_trans (hall r hr) hbounds.1

/-- A safe name has no dot and no slash in it, nor any other character before the digits but the hyphen. -/
theorem IsSafe.notMem {name : String} (h : IsSafe name) {c : Char} (hhyphen : c ≠ '-')
    (hbefore : c.toNat < '0'.toNat) : c ∉ name.toList := by
  intro hmem
  rcases h c hmem with heq | hsome
  · exact hhyphen heq
  · exact absurd (le_toNat_of_isAlphanumeric hsome) (Nat.not_le.2 hbefore)

end Journal

namespace LogFiles

/-- The name of the log file of a name. -/
def fileName (name : String) : String :=
  "audience-builder-" ++ name ++ ".log"

theorem toList_fileName (name : String) :
    (fileName name).toList = "audience-builder-".toList ++ (name.toList ++ ".log".toList) := by
  unfold fileName
  simp only [String.toList_append, List.append_assoc]

theorem fileName_injective : Function.Injective fileName := by
  intro name name' h
  have hlist := congrArg String.toList h
  rw [toList_fileName, toList_fileName] at hlist
  exact String.toList_inj.1 (List.append_cancel_right (List.append_cancel_left hlist))

/-- A text that starts otherwise is no name of a log file. -/
theorem fileName_ne {s : String} (h : s.toList.head? ≠ some 'a') (name : String) : fileName name ≠ s := by
  rintro rfl
  refine h ?_
  rw [toList_fileName]
  simp

theorem isName_fileName {name : String} (h : IsSafe name) : Path.IsName (fileName name) := by
  have hname : '/' ∉ name.toList := h.notMem (by decide) (by decide)
  refine ⟨?_, fileName_ne (by simp) name, fileName_ne (by simp) name, fileName_ne (by simp) name⟩
  rw [toList_fileName]
  simp [hname]

variable {files : LogFiles} {tree : FileTree} {name name' : String}

theorem name_place_pathFor (h : IsSafe name) (files : LogFiles) (tree : FileTree) :
    (tree.place (files.pathFor name)).name = fileName name :=
  Path.name_resolve_child (isName_fileName h) tree.work files.directory

/-- Different safe names have different log files. -/
theorem place_pathFor_inj (h : IsSafe name) (h' : IsSafe name') :
    tree.place (files.pathFor name) = tree.place (files.pathFor name') ↔ name = name' := by
  constructor
  · intro heq
    have hname := congrArg Path.name heq
    rw [name_place_pathFor h, name_place_pathFor h'] at hname
    exact fileName_injective hname
  · rintro rfl
    rfl

end LogFiles

end Segmentation

namespace Segmentation.Journal

variable {j : Journal} {name other : String}

/-! ## Changing one logger -/

theorem lookup_filter_ne {α : Type} (entries : List (String × α)) (h : other ≠ name) :
    (entries.filter (·.1 ≠ name)).lookup other = entries.lookup other := by
  induction entries with
  | nil => rfl
  | cons entry entries ih =>
    obtain ⟨key, a⟩ := entry
    by_cases hkey : key = name
    · rw [List.filter_cons_of_neg (by simpa using hkey), ih, List.lookup_cons,
        beq_eq_false_iff_ne.2 (hkey ▸ h)]
    · rw [List.filter_cons_of_pos (by simpa using hkey), List.lookup_cons, List.lookup_cons, ih]

theorem logger_update (j : Journal) (name : String) (change : Logger → Logger) (other : String) :
    (j.update name change).logger other = if other = name then change (j.logger name) else j.logger other := by
  by_cases h : other = name
  · rw [if_pos h, h]
    conv_lhs => rw [logger, update]
    rw [List.lookup_cons_self, Option.getD_some]
  · rw [if_neg h]
    conv_lhs => rw [logger, update]
    rw [List.lookup_cons, beq_eq_false_iff_ne.2 h]
    dsimp only
    rw [lookup_filter_ne _ h, logger]

theorem logger_attach (j : Journal) (name : String) (handler : Handler) (other : String) :
    (j.attach name handler).logger other =
      if other = name then (j.logger name).addHandler handler else j.logger other :=
  logger_update j name (·.addHandler handler) other

theorem logger_attachFilter (j : Journal) (name : String) (filter : Filter) (other : String) :
    (j.attachFilter name filter).logger other =
      if other = name then (j.logger name).addFilter filter else j.logger other :=
  logger_update j name (·.addFilter filter) other

/-! ## Reset -/

theorem logger_foldl_update {α : Type} (change : α → Logger → Logger) (attached : List (String × α))
    (j : Journal) (name : String) :
    (attached.foldl (fun j (a : String × α) => j.update a.1 (change a.2)) j).logger name =
      ((attached.filter (·.1 = name)).map (·.2)).foldl (fun l a => change a l) (j.logger name) := by
  induction attached generalizing j with
  | nil => rfl
  | cons a attached ih =>
    rw [List.foldl_cons, ih, logger_update]
    by_cases h : a.1 = name
    · rw [if_pos h.symm, List.filter_cons_of_pos (by simpa using h), List.map_cons, List.foldl_cons, h]
    · rw [if_neg (Ne.symm h), List.filter_cons_of_neg (by simpa using h)]

theorem foldl_removeHandler (l : Logger) (handlers : List Handler) :
    handlers.foldl (fun l h => l.removeHandler h) l = { l with handlers := l.handlers.diff handlers } := by
  induction handlers generalizing l with
  | nil => rfl
  | cons h handlers ih => rw [List.foldl_cons, ih, List.diff_cons, Logger.removeHandler]

theorem foldl_removeFilter (l : Logger) (filters : List Filter) :
    filters.foldl (fun l f => l.removeFilter f) l = { l with filters := l.filters.diff filters } := by
  induction filters generalizing l with
  | nil => rfl
  | cons f filters ih => rw [List.foldl_cons, ih, List.diff_cons, Logger.removeFilter]

/-- What is recorded for a logger is taken away, and nothing else changes. -/
theorem logger_reset (j : Journal) (name : String) :
    j.reset.logger name = { j.logger name with
      handlers := (j.logger name).handlers.diff ((j.handlers.filter (·.1 = name)).map (·.2)),
      filters := (j.logger name).filters.diff ((j.filters.filter (·.1 = name)).map (·.2)) } := by
  have hhandlers := logger_foldl_update (fun h l => Logger.removeHandler l h) j.handlers j name
  rw [foldl_removeHandler] at hhandlers
  have hfilters := fun attached => logger_foldl_update (fun f l => Logger.removeFilter l f) attached
    (j.handlers.foldl (fun j (a : String × Handler) => j.update a.1 (·.removeHandler a.2)) j) name
  have hkept : (j.handlers.foldl (fun j (a : String × Handler) => j.update a.1 (·.removeHandler a.2)) j).filters =
      j.filters := by
    have hall : ∀ (attached : List (String × Handler)) (i : Journal),
        (attached.foldl (fun j (a : String × Handler) => j.update a.1 (·.removeHandler a.2)) i).filters =
          i.filters := by
      intro attached
      induction attached with
      | nil => exact fun _ => rfl
      | cons a attached ih => exact fun i => ih _
    exact hall _ _
  refine (hfilters _).trans ?_
  rw [hhandlers, foldl_removeFilter, hkept]

/-! ## Loggers of segments -/

/-- The name above the loggers of all segments. -/
def segmentsName : String := packageName ++ ".segment"

theorem toList_segmentLoggerName (segment : String) :
    (segmentLoggerName segment).toList =
      packageName.toList ++ '.' :: ("segment".toList ++ '.' :: (safeName segment).toList) := by
  unfold segmentLoggerName
  simp

theorem segmentLoggerName_inj {s t : String} :
    segmentLoggerName s = segmentLoggerName t ↔ safeName s = safeName t := by
  constructor
  · intro h
    have hlist := congrArg String.toList h
    rw [toList_segmentLoggerName, toList_segmentLoggerName] at hlist
    have hrest := List.append_cancel_left (List.cons.inj (List.append_cancel_left hlist)).2
    exact String.toList_inj.1 (List.cons.inj hrest).2
  · intro h
    rw [segmentLoggerName, segmentLoggerName, h]

/-- The name of a segment's logger is longer than the names above it. -/
theorem length_lt_segmentLoggerName (segment : String) :
    segmentsName.toList.length < (segmentLoggerName segment).toList.length := by
  have hlength : segmentsName.toList.length = packageName.toList.length + "segment".toList.length + 1 := by
    decide
  rw [toList_segmentLoggerName, hlength]
  simp only [List.length_append, List.length_cons]
  omega

theorem segmentLoggerName_ne {segment name : String}
    (h : name.toList.length ≤ segmentsName.toList.length) : segmentLoggerName segment ≠ name := by
  rintro rfl
  exact absurd (length_lt_segmentLoggerName segment) (Nat.not_lt.2 h)

theorem segmentLoggerName_ne_package (segment : String) : segmentLoggerName segment ≠ packageName :=
  segmentLoggerName_ne (by decide)

theorem segmentLoggerName_ne_segments (segment : String) : segmentLoggerName segment ≠ segmentsName :=
  segmentLoggerName_ne (Nat.le_refl _)

theorem segmentLoggerName_ne_root (segment : String) : segmentLoggerName segment ≠ "root" :=
  segmentLoggerName_ne (by decide)

theorem lineage_segmentLoggerName (segment : String) :
    lineage (segmentLoggerName segment) = [segmentLoggerName segment, segmentsName, packageName] := by
  have hpackage : '.' ∉ packageName.toList := by decide
  have hsegment : '.' ∉ "segment".toList := by decide
  have hsafe : '.' ∉ (safeName segment).toList := (isSafe_safeName segment).notMem (by decide) (by decide)
  have hparts : Text.split (segmentLoggerName segment) '.' = [packageName, "segment", safeName segment] := by
    rw [Text.split, toList_segmentLoggerName, Text.splitOn_append_cons hpackage,
      Text.splitOn_append_cons hsegment, Text.splitOn_of_notMem hsafe]
    simp
  have hjoined : lineage (segmentLoggerName segment) =
      [Text.join "." [packageName, "segment", safeName segment], Text.join "." [packageName, "segment"],
        Text.join "." [packageName]] := by
    unfold lineage
    rw [hparts]
    rfl
  have hname : packageName ++ "." ++ ("segment" ++ "." ++ safeName segment) = segmentLoggerName segment := by
    rw [← String.toList_inj, toList_segmentLoggerName]
    simp
  simp only [Text.join, String.intercalate_cons_cons, String.intercalate_singleton] at hjoined
  rw [hjoined, hname]
  rfl

theorem chain_segmentLoggerName (j : Journal) (segment : String) :
    j.chain (segmentLoggerName segment) =
      [j.logger (segmentLoggerName segment), j.logger segmentsName, j.logger packageName, j.logger "root"] := by
  rw [chain, if_neg (segmentLoggerName_ne_root segment), lineage_segmentLoggerName]
  rfl

/-- The line that a message becomes for a handler, if the handler writes it. -/
def Target.line? (level : Level) (tag message : String) (target : Target) : Option (Path × String) :=
  let h : Handler := ⟨0, target⟩
  if h.level.number ≤ level.number then h.record? level tag message else none

/-- The handlers of a logger that passes nothing on are all that write its messages. -/
theorem entries_segmentLoggerName {segment : String} (level : Level) (message : String)
    (h : (j.logger (segmentLoggerName segment)).passesOn = false) :
    j.entries (segmentLoggerName segment) level message =
      if level.number < (j.effectiveLevel (segmentLoggerName segment)).number then []
      else ((j.logger (segmentLoggerName segment)).handlers.map (·.target)).filterMap
        (Target.line? level ((j.logger (segmentLoggerName segment)).tag?.getD (segmentLoggerName segment))
          message) := by
  have hreached : reached (j.chain (segmentLoggerName segment)) = [j.logger (segmentLoggerName segment)] := by
    rw [chain_segmentLoggerName, reached, h]
    rfl
  rw [entries, hreached]
  refine ite_congr rfl (fun _ => rfl) fun _ => ?_
  rw [List.flatMap_singleton, List.filterMap_map, List.filterMap_filter]
  refine List.filterMap_congr fun handler _ => ?_
  simp only [Function.comp_apply, Target.line?, decide_eq_true_eq]
  rfl

end Segmentation.Journal
