import Segmentation.Proofs.Journal.Asked

/-!
# Which log files a message reaches

* `Work.log_run`: a message is added to the open files of its handlers, in their order.
* `Workspace.Routed`: the message of a segment is in its own log once and in the log of no other segment that was
  asked for, and it is in the log for errors, once and with the segment's name, exactly if it is an error.
* `Workspace.Asked.log_routed`: this is so exactly if the message is important enough, no other segment that was
  asked for has the same safe name, and no log of a segment is the log for errors.
-/

namespace Segmentation

open Journal Storage

/-- A line of a log file: it starts with the time. -/
def Workspace.line (w : Workspace) (text : String) : String :=
  w.now.stampText ++ " " ++ text ++ "\n"

/-- The text of the file at a place, or none. -/
def Storage.FileTree.textAt (t : FileTree) (place : Path) : String :=
  (t.files.lookup place).getD ""

/-- A text after lines were added by handlers to the file at a place. -/
def Workspace.addLines (w : Workspace) (place : Path) (lines : List (Path × String)) (text : String) : String :=
  lines.foldl (fun text e => if w.tree.place e.1 = place then text ++ w.line e.2 else text) text

namespace Workspace

variable {w : Workspace} {place : Path}

theorem addLines_cons (e : Path × String) (lines : List (Path × String)) (text : String) :
    w.addLines place (e :: lines) text =
      w.addLines place lines (if w.tree.place e.1 = place then text ++ w.line e.2 else text) :=
  rfl

theorem addLines_of_ne {lines : List (Path × String)} (h : ∀ e ∈ lines, w.tree.place e.1 ≠ place)
    (text : String) : w.addLines place lines text = text := by
  induction lines with
  | nil => rfl
  | cons e lines ih =>
    rw [List.forall_mem_cons] at h
    rw [addLines_cons, if_neg h.1, ih h.2]

/-- A line that is added is seen. -/
theorem append_line_ne (w : Workspace) (text added : String) : text ++ w.line added ≠ text := by
  intro h
  have hempty : w.line added = "" := by
    simpa using h
  have hnewline : '\n' ∈ (w.line added).toList := by
    simp [line]
  rw [hempty] at hnewline
  cases hnewline

theorem line_inj {s t : String} (h : w.line s = w.line t) : s = t := by
  have hlist := congrArg String.toList h
  simp only [line, String.toList_append] at hlist
  exact String.toList_inj.1 (List.append_cancel_left (List.append_cancel_right hlist))

end Workspace

namespace Work

variable {w : Workspace}

theorem forIn_cons_run {α : Type} (f : α → Work Unit) (a : α) (as : List α) (w : Workspace) {w' : Workspace}
    (h : (f a).run.run w = (.ok (), w')) :
    (do for a in a :: as do f a : Work Unit).run.run w = (do for a in as do f a : Work Unit).run.run w' := by
  rw [List.forIn_cons]
  simp only [Triple.run_bind, h]
  rfl

/-- Lines are added one after the other. -/
theorem forIn_append_run (lines : List (Path × String)) (hopen : ∀ e ∈ lines, w.tree.IsOpen e.1) :
    ∃ tree, (do for e in lines do changeTree (·.append e.1 (w.line e.2)) : Work Unit).run.run w =
        (.ok (), { w with tree }) ∧
      ∀ place, tree.textAt place = w.addLines place lines (w.tree.textAt place) := by
  suffices hall : ∀ before : FileTree, before.work = w.tree.work → (∀ e ∈ lines, before.IsOpen e.1) →
      ∃ tree, (do for e in lines do changeTree (·.append e.1 (w.line e.2)) : Work Unit).run.run
          { w with tree := before } = (.ok (), { w with tree }) ∧
        ∀ place, tree.textAt place = w.addLines place lines (before.textAt place) from hall w.tree rfl hopen
  intro before hwork hbefore
  clear hopen
  induction lines generalizing before with
  | nil => exact ⟨before, rfl, fun _ => rfl⟩
  | cons e lines ih =>
    rw [List.forall_mem_cons] at hbefore
    obtain ⟨next, hnext⟩ := hbefore.1.exists_append (w.line e.2)
    have hplace : before.place e.1 = w.tree.place e.1 := by
      rw [FileTree.place, FileTree.place, hwork]
    obtain ⟨tree, hrun, htext⟩ := ih next ((FileTree.work_append hnext).trans hwork)
      fun e' he' => (hbefore.2 e' he').append hnext
    refine ⟨tree, ?_, fun place => ?_⟩
    · refine (forIn_cons_run _ e lines _ ?_).trans hrun
      exact (changeTree_run _ _).trans (by rw [hnext])
    · rw [htext, Workspace.addLines_cons, FileTree.textAt, FileTree.textAt, FileTree.lookup_append hnext, hplace]
      by_cases heq : w.tree.place e.1 = place
      · rw [if_pos heq, if_pos heq.symm, heq]
        rfl
      · rw [if_neg heq, if_neg (Ne.symm heq)]

/-- A message is added to the open files of its handlers. -/
theorem log_run (logger : String) (level : Level) (message : String)
    (hopen : ∀ e ∈ w.journal.entries logger level message, w.tree.IsOpen e.1) :
    ∃ tree, (log logger level message).run.run w = (.ok (), { w with tree }) ∧
      ∀ place, tree.textAt place =
        w.addLines place (w.journal.entries logger level message) (w.tree.textAt place) := by
  obtain ⟨tree, hrun, htext⟩ := forIn_append_run _ hopen
  refine ⟨tree, ?_, htext⟩
  unfold log
  rw [Triple.run_bind]
  exact hrun

end Work

namespace Journal

variable {files : LogFiles} {level : Level} {message tag : String}

theorem line?_segmentLog (hlevel : 0 ≤ level.number) (own : Path) :
    Target.line? level tag message (.segmentLog own) = some (own, "[" ++ level.name ++ "] " ++ message) :=
  if_pos hlevel

theorem line?_errorLog (errors : Path) :
    Target.line? level tag message (.errorLog errors) =
      if Level.error.number ≤ level.number then
        some (errors, "[" ++ level.name ++ "] [" ++ tag ++ "] " ++ message)
      else none :=
  rfl

theorem mem_sharedTargets {own errors : Path} {n : Nat} {target : Target}
    (h : target ∈ sharedTargets own errors n) : target = .segmentLog own ∨ target = .errorLog errors := by
  cases n with
  | zero => cases h
  | succ n =>
    rcases List.mem_cons.1 h with rfl | h
    · exact .inl rfl
    · rcases List.mem_cons.1 h with rfl | h
      · exact .inr rfl
      · exact .inl (List.eq_of_mem_replicate h)

theorem threshold_nonneg (h : 0 ≤ files.level.number) : 0 ≤ files.threshold.number := by
  unfold LogFiles.threshold
  split
  · decide
  · exact h

end Journal

namespace Workspace

/-- The message was written as it should be: the segment's own log has it once more, the log for errors has it
once more with the segment's name if it is an error, and otherwise not, and the logs of all other segments that
were asked for are as before. -/
structure Routed (files : LogFiles) (asked : List String) (segment : String) (level : Level) (message : String)
    (w w' : Workspace) : Prop where
  own : w'.tree.textAt (w.tree.place (files.pathFor (safeName segment))) =
    w.tree.textAt (w.tree.place (files.pathFor (safeName segment))) ++
      w.line ("[" ++ level.name ++ "] " ++ message)
  errors : w'.tree.textAt (w.tree.place (files.pathFor "error")) =
    if Level.error.number ≤ level.number then
      w.tree.textAt (w.tree.place (files.pathFor "error")) ++
        w.line ("[" ++ level.name ++ "] [" ++ segment ++ "] " ++ message)
    else w.tree.textAt (w.tree.place (files.pathFor "error"))
  others : ∀ s ∈ asked, s ≠ segment → w'.tree.textAt (w.tree.place (files.pathFor (safeName s))) =
    w.tree.textAt (w.tree.place (files.pathFor (safeName s)))

variable {files : LogFiles} {asked prepared : List String} {w w' : Workspace} {segment logger : String}

/-- A segment that shares its logger with no other one has brought along one handler for its own log. -/
theorem Serves.sharing_eq_one (h : w.Serves files prepared)
    (hlogger : w.journal.segmentLoggers.lookup segment = some logger)
    (halone : ∀ s ∈ prepared, safeName s = safeName segment → s = segment) :
    w.journal.sharing (segmentLoggerName segment) = 1 := by
  obtain ⟨before, after, heq, -⟩ := List.lookup_eq_some_iff.1 hlogger
  have hmem : segment ∈ w.journal.segmentLoggers.map (·.1) := by simp [heq]
  rw [← List.count_eq_one_of_mem h.routes.distinct hmem, List.count, List.countP_map, sharing]
  refine List.countP_congr fun x hx => ?_
  obtain ⟨hname, hprepared⟩ := h.routes.known x hx
  rw [hname, decide_eq_true_iff, segmentLoggerName_inj, Function.comp_apply, beq_iff_eq]
  exact ⟨halone _ hprepared, congrArg safeName⟩

theorem getLast?_filter_eq {p : String → Bool} {ss : List String} {s : String} (hmem : s ∈ ss) (hp : p s = true)
    (honly : ∀ t ∈ ss, p t = true → t = s) : (ss.filter p).getLast? = some s := by
  have hne : ss.filter p ≠ [] := List.ne_nil_of_mem (List.mem_filter.2 ⟨hmem, hp⟩)
  obtain ⟨hlast, hplast⟩ := List.mem_filter.1 (List.getLast_mem hne)
  rw [List.getLast?_eq_some_getLast hne, honly _ hlast hplast]

/-- Where a segment shares its safe name with no other one, a message is written to its own log and, if it is
an error, to the log for errors. -/
theorem Serves.entries_of_alone (h : w.Serves files prepared)
    (hlogger : w.journal.segmentLoggers.lookup segment = some logger) (hmem : segment ∈ prepared)
    (halone : ∀ s ∈ prepared, safeName s = safeName segment → s = segment) {level : Level}
    (hlevel : files.threshold.number ≤ level.number) (message : String) :
    w.journal.entries (segmentLoggerName segment) level message =
      (files.pathFor (safeName segment), "[" ++ level.name ++ "] " ++ message) ::
        if Level.error.number ≤ level.number then
          [(files.pathFor "error", "[" ++ level.name ++ "] [" ++ segment ++ "] " ++ message)]
        else [] := by
  have hpositive : 0 ≤ level.number := Int.le_trans (threshold_nonneg h.level) hlevel
  have htag : (prepared.filter (safeName · = safeName segment)).getLast? = some segment :=
    getLast?_filter_eq hmem (by simp) fun s hs hsafe => halone s hs (by simpa using hsafe)
  rw [h.routes.entries hmem, if_neg (Int.not_lt.2 hlevel), h.sharing_eq_one hlogger halone, htag,
    Option.getD_some, sharedTargets, List.replicate_zero,
    List.filterMap_cons_some (line?_segmentLog hpositive _)]
  by_cases herror : Level.error.number ≤ level.number
  · rw [List.filterMap_cons_some ((line?_errorLog _).trans (if_pos herror)), if_pos herror]
    rfl
  · rw [List.filterMap_cons_none ((line?_errorLog _).trans (if_neg herror)), if_neg herror]
    rfl

/-- Whatever a message becomes, it goes to the segment's own log or to the log for errors, and both are open. -/
theorem Serves.entries_open (h : w.Serves files prepared)
    (hlogger : w.journal.segmentLoggers.lookup segment = some logger) (hmem : segment ∈ prepared) (level : Level)
    (message : String) : ∀ e ∈ w.journal.entries (segmentLoggerName segment) level message,
      (e.1 = files.pathFor (safeName segment) ∨ e.1 = files.pathFor "error") ∧ w.tree.IsOpen e.1 := by
  obtain ⟨before, after, heq, -⟩ := List.lookup_eq_some_iff.1 hlogger
  have hown : w.tree.IsOpen (files.pathFor (safeName segment)) := h.logs (segment, logger) (by simp [heq])
  intro e he
  rw [h.routes.entries hmem] at he
  split at he
  · cases he
  · rename_i hlevel
    have hpositive : 0 ≤ level.number := Int.le_trans (threshold_nonneg h.level) (Int.not_lt.1 hlevel)
    obtain ⟨target, htarget, hline⟩ := List.mem_filterMap.1 he
    rcases mem_sharedTargets htarget with rfl | rfl
    · rw [line?_segmentLog hpositive] at hline
      have hfile : e.1 = files.pathFor (safeName segment) := by rw [← Option.some.inj hline]
      exact ⟨.inl hfile, by rwa [hfile]⟩
    · rw [line?_errorLog] at hline
      split at hline
      · have hfile : e.1 = files.pathFor "error" := by rw [← Option.some.inj hline]
        exact ⟨.inr hfile, by rw [hfile]; exact h.error⟩
      · cases hline

/-- A message that was written as it should be was important enough, its segment shares its safe name with no
other one, and no log of a segment that it concerns is the log for errors. -/
theorem Routed.alone {level : Level} {message : String} (h : Routed files asked segment level message w w') :
    (∀ s ∈ asked, safeName s = safeName segment → s = segment) ∧ safeName segment ≠ "error" ∧
      (Level.error.number ≤ level.number → ∀ s ∈ asked, safeName s ≠ "error") := by
  have hseparate : safeName segment ≠ "error" := by
    intro hname
    have hown := h.own
    rw [hname, h.errors] at hown
    split at hown
    · have hline := line_inj (String.append_right_inj _ |>.1 hown)
      have hlist := congrArg (fun s => s.toList.length) hline
      simp only [String.toList_append, List.length_append] at hlist
      simp at hlist
      omega
    · exact append_line_ne w _ _ hown.symm
  refine ⟨fun s hs hsafe => ?_, hseparate, fun herror s hs hname => ?_⟩
  · by_contra hne
    have hother := h.others s hs hne
    rw [hsafe, h.own] at hother
    exact append_line_ne w _ _ hother
  · have hne : s ≠ segment := by
      rintro rfl
      exact hseparate hname
    have hother := h.others s hs hne
    rw [hname, h.errors, if_pos herror] at hother
    exact append_line_ne w _ _ hother

/-- Where nothing stands against it, the lines of a message are written as they should be. -/
theorem Serves.routed_of_alone (h : w.Serves files prepared)
    (hlogger : w.journal.segmentLoggers.lookup segment = some logger) (hmem : segment ∈ prepared)
    (hasked : ∀ s ∈ prepared, s ∈ asked) (halone : ∀ s ∈ asked, safeName s = safeName segment → s = segment)
    {level : Level} {message : String} {tree : FileTree} (hlevel : files.threshold.number ≤ level.number)
    (hseparate : safeName segment ≠ "error")
    (herrors : Level.error.number ≤ level.number → ∀ s ∈ asked, safeName s ≠ "error")
    (htext : ∀ place, tree.textAt place =
      w.addLines place (w.journal.entries (segmentLoggerName segment) level message) (w.tree.textAt place)) :
    Routed files asked segment level message w { w with tree } := by
  have hlines := h.entries_of_alone hlogger hmem (fun s hs => halone s (hasked s hs)) hlevel message
  have hplaces : w.tree.place (files.pathFor (safeName segment)) ≠ w.tree.place (files.pathFor "error") :=
    mt (LogFiles.place_pathFor_inj (isSafe_safeName segment) isSafe_error).1 hseparate
  constructor
  · dsimp only
    rw [htext, hlines, addLines_cons, if_pos rfl]
    refine addLines_of_ne (fun e he => ?_) _
    obtain rfl := List.mem_singleton.1 (List.mem_ite_nil_right.1 he).2
    exact hplaces.symm
  · dsimp only
    rw [htext, hlines, addLines_cons, if_neg hplaces]
    by_cases herror : Level.error.number ≤ level.number
    · rw [if_pos herror, if_pos herror, addLines_cons, if_pos rfl]
      rfl
    · rw [if_neg herror, if_neg herror]
      rfl
  · intro s hs hne
    have hother : w.tree.place (files.pathFor (safeName segment)) ≠ w.tree.place (files.pathFor (safeName s)) :=
      fun heq => hne (halone s hs ((LogFiles.place_pathFor_inj (isSafe_safeName segment)
        (isSafe_safeName s)).1 heq).symm)
    dsimp only
    rw [htext, hlines, addLines_cons, if_neg hother]
    refine addLines_of_ne (fun e he => ?_) _
    obtain ⟨herror, he⟩ := List.mem_ite_nil_right.1 he
    obtain rfl := List.mem_singleton.1 he
    exact fun heq => herrors herror s hs
      ((LogFiles.place_pathFor_inj isSafe_error (isSafe_safeName s)).1 heq).symm

/-- Log files are set up, segments are asked for, and a message is sent to the logger that one of them got. It
can be written, to no file but the segment's own log and the log for errors. It is written as it should be
exactly if it is important enough, no other segment that was asked for has the same safe name, the log of the
segment is not the log for errors, and, if it is an error, no log of another segment that was asked for is the
log for errors either. -/
theorem Asked.log_routed {start : Workspace} (hstart : start.journal.Bare) (h : Asked start asked w)
    (hfiles : w.journal.files = some files)
    (hlogger : w.journal.segmentLoggers.lookup segment = some logger) (level : Level) (message : String) :
    ∃ tree, (Work.log logger level message).run.run w = (.ok (), { w with tree }) ∧
      (∀ place, place ≠ w.tree.place (files.pathFor (safeName segment)) →
        place ≠ w.tree.place (files.pathFor "error") → tree.textAt place = w.tree.textAt place) ∧
      (Routed files asked segment level message w { w with tree } ↔
        files.threshold.number ≤ level.number ∧ (∀ s ∈ asked, safeName s = safeName segment → s = segment) ∧
          safeName segment ≠ "error" ∧
          (Level.error.number ≤ level.number → ∀ s ∈ asked, safeName s ≠ "error")) := by
  obtain ⟨prepared, hserves, hasked⟩ := (h.keeps hstart).exists_serves hfiles
  obtain ⟨before, after, heq, -⟩ := List.lookup_eq_some_iff.1 hlogger
  obtain ⟨hname, hmem⟩ := hserves.routes.known (segment, logger) (by simp [heq])
  dsimp only at hname hmem
  subst hname
  have hentries := hserves.entries_open hlogger hmem level message
  obtain ⟨tree, hrun, htext⟩ := Work.log_run _ level message fun e he => (hentries e he).2
  refine ⟨tree, hrun, fun place hown herrors => ?_, fun hrouted => ⟨?_, hrouted.alone⟩, ?_⟩
  · rw [htext]
    refine addLines_of_ne (fun e he => ?_) _
    rcases (hentries e he).1 with heq | heq <;> rw [heq]
    · exact hown.symm
    · exact herrors.symm
  · -- nothing is written of a message that is not important enough
    by_contra hlevel
    have hown := hrouted.own
    dsimp only at hown
    rw [htext, hserves.routes.entries hmem, if_pos (Int.not_le.1 hlevel)] at hown
    exact append_line_ne w _ _ hown.symm
  · rintro ⟨hlevel, halone, hseparate, herrors⟩
    exact hserves.routed_of_alone hlogger hmem hasked halone hlevel hseparate herrors htext

/-- A workspace in which nothing has been logged. -/
def fresh : Workspace where
  home := ⟨"/", []⟩
  environment := []
  tree := .empty ⟨"/", []⟩
  journal := .empty
  now := default
  ids := ⟨0⟩

/-- Log files of the usual level and size in the directory `/logs`. -/
def usualFiles : LogFiles :=
  ⟨⟨"/", ["logs"]⟩, .info, 5 * 1024 * 1024, 3⟩

/-- Log files are set up in a fresh workspace, and loggers are asked for. -/
def logging (segments : List String) : Workspace :=
  segments.foldl (fun w segment => ((Work.segmentLogger segment).run.run w).2)
    ((Work.setUpJournal (some ⟨⟨"/", []⟩, "", none, "", "INFO", ⟨"/", ["logs"]⟩, 5, 3⟩)).run.run fresh).2

/-- An error of one of two segments with different safe names. -/
theorem Asked.log_routed_leads :
    let w := logging ["VIP customers", "Leads"]
    let logger := "audience_builder.segment.VIP-customers"
    (fresh.journal.Bare ∧ Asked fresh ["Leads", "VIP customers"] w ∧ w.journal.files = some usualFiles ∧
        w.journal.segmentLoggers.lookup "VIP customers" = some logger) ∧
      ∃ tree, (Work.log logger .error "unreadable").run.run w = (.ok (), { w with tree }) ∧
        Routed usualFiles ["Leads", "VIP customers"] "VIP customers" .error "unreadable" w { w with tree } := by
  intro w logger
  have hbare : fresh.journal.Bare := bare_empty
  have hasked : Asked fresh ["Leads", "VIP customers"] w := .get (.get (.setUp .start _) _) _
  have hfiles : w.journal.files = some usualFiles := by decide +kernel
  have hlogger : w.journal.segmentLoggers.lookup "VIP customers" = some logger := by decide +kernel
  obtain ⟨tree, hrun, -, hrouted⟩ := Asked.log_routed hbare hasked hfiles hlogger .error "unreadable"
  refine ⟨⟨hbare, hasked, hfiles, hlogger⟩, tree, hrun, hrouted.2 ?_⟩
  decide +kernel

/-- Two segments whose names differ in one character that is no letter share a log: it gets every message of
either twice, and the log for errors has them under the name of the last one. -/
theorem not_routed_sharedLog :
    let w := logging ["a b", "a-b"]
    let logger := "audience_builder.segment.a-b"
    let w' := ((Work.log logger .error "m").run.run w).2
    Asked fresh ["a-b", "a b"] w ∧ w.journal.files = some usualFiles ∧
      w.journal.segmentLoggers.lookup "a b" = some logger ∧
      w'.tree.textAt ⟨"/", ["logs", "audience-builder-a-b.log"]⟩ = w.line "[ERROR] m" ++ w.line "[ERROR] m" ∧
      w'.tree.textAt ⟨"/", ["logs", "audience-builder-error.log"]⟩ = w.line "[ERROR] [a-b] m" ∧
      ¬ Routed usualFiles ["a-b", "a b"] "a b" .error "m" w w' := by
  intro w logger w'
  have hshared : safeName "a-b" = safeName "a b" := by decide +kernel
  refine ⟨.get (.get (.setUp .start _) _) _, by decide +kernel, by decide +kernel, by decide +kernel,
    by decide +kernel, fun h => ?_⟩
  exact absurd (h.alone.1 "a-b" List.mem_cons_self hshared) (by decide)

end Workspace

end Segmentation
