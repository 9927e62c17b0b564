import Segmentation.Proofs.Console.Logging
import Segmentation.Proofs.Console.Segments
import Segmentation.Proofs.Journal.Delivery

/-!
# Evaluations and the contacts that they are given

* `Workspace.OpenFor`: the log of one segment is open. Messages can be written to it, as `Workspace.OpenFor.log` says.
* `Console.Ready`: what an evaluation needs before it comes to its contacts.
* `Console.isReported_of_readContacts`: the faults of files of contacts that are not reported are some of YAML.
* `Console.Awaits`, `Console.Halted`: what is left to be printed, and how an evaluation is stopped on the way.
* `Console.Reports`, `Console.Resolves`: the two ways in which it should end then.
* `Console.Command.run_evaluate`: it ends in one of them, unless the contacts are a text that is no YAML document, or
  an e-mail among them has no text. Then what has happened escapes, as `Console.Command.not_reports_bracket` shows.
-/

namespace Segmentation

open Journal Storage

/-! ## The log of a segment -/

/-- Log files are set up anew, and the log of a segment is opened. -/
def Work.openLog (given : Settings) (segment : String) : Work String := do
  let _ ← setUpJournal (some given)
  segmentLogger segment

namespace Workspace

/-- Log files are set up, the log of the segment is open, and no other segment has been asked for. -/
structure OpenFor (files : LogFiles) (segment logger : String) (w : Workspace) : Prop where
  keeps : w.Keeps [segment]
  files : w.journal.files = some files
  logger : w.journal.segmentLoggers.lookup segment = some logger

variable {files : LogFiles} {segment logger : String} {w w' : Workspace}

/-- A message can be written. It is written as it should be if it is important enough and the log of the segment is
not the log for errors. -/
theorem OpenFor.log (h : w.OpenFor files segment logger) (level : Level) (message : String) :
    ∃ tree, (Work.log logger level message).run.run w = (.ok (), { w with tree }) ∧
      OpenFor files segment logger { w with tree } ∧
      (files.threshold.number ≤ level.number → safeName segment ≠ "error" →
        Routed files [segment] segment level message w { w with tree }) := by
  obtain ⟨prepared, hserves, hasked⟩ := h.keeps.exists_serves h.files
  obtain ⟨before, after, heq, -⟩ := List.lookup_eq_some_iff.1 h.logger
  obtain ⟨hname, hmem⟩ := hserves.routes.known (segment, logger) (by simp [heq])
  dsimp only at hname hmem
  subst hname
  have hentries := hserves.entries_open h.logger hmem level message
  obtain ⟨tree, hrun, htext⟩ := Work.log_run _ level message fun e he => (hentries e he).2
  have hopen : OpenFor files segment (segmentLoggerName segment) { w with tree } :=
    ⟨(Triple.keeps_log _ level message).ok h.keeps hrun, h.files, h.logger⟩
  refine ⟨tree, hrun, hopen, fun hlevel hseparate => ?_⟩
  refine hserves.routed_of_alone h.logger hmem hasked (fun s hs _ => List.mem_singleton.1 hs) hlevel hseparate
    (fun _ s hs => ?_) htext
  rwa [List.mem_singleton.1 hs]

end Workspace

theorem Journal.segmentLoggers_openSegmentLog (j : Journal) (files : LogFiles) (segment : String) :
    (j.openSegmentLog files segment).files = j.files ∧ (j.openSegmentLog files segment).segmentLoggers =
      j.segmentLoggers ++ [(segment, segmentLoggerName segment)] := by
  unfold Journal.openSegmentLog
  dsimp only
  split <;> exact ⟨rfl, rfl⟩

namespace Triple

open Workspace

variable {asked : List String}

/-- Log files are set up by the settings. -/
theorem setUpJournal_files (given : Settings) :
    Triple (fun _ => True) (Work.setUpJournal (some given)) (fun files _ => files = .ofSettings given)
      fun _ _ => True := by
  unfold Work.setUpJournal
  refine bind (any _) fun _ => ?_
  simp only [pure_bind]
  refine bind (any _) fun _ => bind (any _) fun _ => bind (any _) fun _ => bind (any _) fun _ => ?_
  exact pure fun _ _ => rfl

/-- The logger of a segment is known from then on. -/
theorem segmentLogger_known (files : LogFiles) (segment : String) :
    Triple (fun w => w.journal.files = some files) (Work.segmentLogger segment)
      (fun logger w => w.journal.files = some files ∧ w.journal.segmentLoggers.lookup segment = some logger)
      fun _ _ => True := by
  refine of_eq fun w₀ hfiles => ?_
  unfold Work.segmentLogger
  refine get_bind ?_
  cases hknown : w₀.journal.segmentLoggers.lookup segment with
  | some name => exact pure fun _ hw => hw ▸ ⟨hfiles, hknown⟩
  | none =>
    dsimp only
    refine get_bind ?_
    simp only [hfiles, pure_bind]
    have hunknown : Triple (· = w₀) (Work.changeJournal (·.prepareSegment files segment)) (fun _ w =>
        w.journal.files = some files ∧ w.journal.segmentLoggers.lookup segment = none) fun _ _ => True :=
      changeJournal fun _ hw => hw ▸ ⟨hfiles, hknown⟩
    refine bind hunknown fun _ => ?_
    refine bind (changeTree (R := fun _ w => w.journal.files = some files ∧
      w.journal.segmentLoggers.lookup segment = none) (fun _ _ hw _ => hw) fun _ _ _ _ => trivial) fun _ => ?_
    refine bind (changeJournal (R := fun _ w => w.journal.files = some files ∧
      w.journal.segmentLoggers.lookup segment = some (segmentLoggerName segment)) fun w hw => ?_) fun _ =>
        pure fun _ hw => hw
    obtain ⟨hsame, hadded⟩ := segmentLoggers_openSegmentLog w.journal files segment
    refine ⟨hsame.trans hw.1, ?_⟩
    rw [hadded, List.lookup_append, hw.2, Option.none_or, List.lookup_cons_self]

/-- Opening the log of a segment opens it and no other one. -/
theorem openLog (given : Settings) (segment : String) :
    Triple (Keeps asked) (Work.openLog given segment)
      (fun logger w => w.OpenFor (.ofSettings given) segment logger) fun _ _ => True := by
  unfold Work.openLog
  refine bind (Q := fun files w => (Keeps [] w ∧ w.journal.files = some files) ∧ files = .ofSettings given) ?_
    fun files => ?_
  · exact ((keeps_setUpJournal (some given)).and (setUpJournal_files given)).mono (fun _ hw => ⟨hw, trivial⟩)
      (fun _ _ hw => hw) fun _ _ _ => trivial
  · have hkeeps : Triple (Keeps []) (Work.segmentLogger segment) (fun _ => Keeps [segment])
        fun _ => Keeps [segment] := keeps_segmentLogger segment
    refine (hkeeps.and (segmentLogger_known (.ofSettings given) segment)).mono ?_ ?_ fun _ _ _ => trivial
    · rintro w ⟨hw, rfl⟩
      exact hw
    · rintro logger w ⟨hw, hfiles, hlogger⟩
      exact ⟨hw, hfiles, hlogger⟩

end Triple

/-! ## The steps before the contacts -/

namespace Console

/-- An evaluation of the segment `name` comes to its contacts in the workspace `opened`: the settings, the catalogue
and the segments can be read, one of the segments has the name, and its log can be opened. -/
structure Ready [Limits] (w : Workspace) (name : String) (given : Settings) (c : Catalogue) (stored : List Segment)
    (found : Segment) (logger : String) (opened : Workspace) : Prop extends Opens w name given stored found where
  catalogue : w.catalogued given = .ok c
  keeps : ∃ asked, w.Keeps asked
  log : (Work.openLog given found.name).run.run { w with ids := (w.loading given).2 } = (.ok logger, opened)

section

variable {given : Settings} {p : Path}

/-- Setting up log files, opening one and writing to it spare a file that is no log file. -/
theorem logsKeep {w₀ : Workspace} (hjournal : w₀.journal.WritesIn fun q => w₀.tree.place q ≠ p)
    (hlogs : (LogFiles.ofSettings given).LieIn fun q => w₀.tree.place q ≠ p) :
    LogsKeep given w₀ (fun w' => w₀.OpensLogs p w' ∧ w'.journal.files.isSome) (w₀.OpensLogs p) (w₀.Spares p)
      fun _ => True where
  setUp := by
    have hopens : w₀.OpensLogs p w₀ := ⟨.refl hjournal, fun _ _ htext => .inl htext⟩
    exact (Triple.setUpJournal hlogs).mono (fun _ hw => hw ▸ hopens) (fun _ _ hw => hw) fun _ _ hw => hw.toSpares
  segmentLogger segment := (Triple.segmentLogger segment).mono (fun _ hw => hw) (fun _ _ hw => hw)
    fun _ _ hw => hw.toSpares
  log := Triple.log
  weaken _ hw := hw.toSpares
  contacts _ _ _ _ _ := trivial

variable [Limits] {w opened : Workspace} {name logger : String} {c : Catalogue} {stored : List Segment}
  {found : Segment}

/-- Loading draws identifiers, which log files do not know of. -/
theorem Ready.openFor (h : Ready w name given c stored found logger opened) :
    opened.OpenFor (.ofSettings given) found.name logger := by
  obtain ⟨asked, hkeeps⟩ := h.keeps
  refine (Triple.openLog given found.name).ok (?_ : Workspace.Keeps asked _) h.log
  cases hkeeps with
  | bare hbare => exact .bare hbare
  | serves hserves hasked => exact .serves ⟨hserves.level, hserves.routes, hserves.error, hserves.logs⟩ hasked

/-- Until it comes to its contacts, an evaluation leaves all files alone that are no log files. -/
theorem Ready.spares (h : Ready w name given c stored found logger opened)
    (hjournal : w.journal.WritesIn fun q => w.tree.place q ≠ p)
    (hlogs : (LogFiles.ofSettings given).LieIn fun q => w.tree.place q ≠ p) :
    { w with ids := (w.loading given).2 }.Spares p opened := by
  have hkeep : LogsKeep given { w with ids := (w.loading given).2 } _ _ _ _ := logsKeep hjournal hlogs
  have hopens : Triple (· = { w with ids := (w.loading given).2 }) (Work.openLog given found.name)
      (fun _ => Workspace.OpensLogs p { w with ids := (w.loading given).2 }) fun _ _ => True := by
    unfold Work.openLog
    exact Triple.bind (hkeep.setUp.mono (fun _ hw => hw) (fun _ _ hw => hw) fun _ _ _ => trivial) fun _ =>
      (hkeep.segmentLogger _).mono (fun _ hw => hw) (fun _ _ hw => hw) fun _ _ _ => trivial
  exact (hopens.ok rfl h.log).toSpares

end

/-! ## Contacts that cannot be had -/

section

variable {s : Session} {logger : String} {path : Path} {fault : Fault} {among : List Value} {found : Entry}

/-- No text of contacts is nested too deep. -/
theorem readContacts_ne_tooDeep (path : Path) (found : Entry) :
    readContacts path found ≠ .error (.json .nestedTooDeep) := by
  have hlayout : ∀ document, (contactsOf document).mapError Fault.layout ≠ .error (.json .nestedTooDeep) := by
    intro document h
    obtain ⟨f, -, hf⟩ := mapError_eq_error.1 h
    cases hf
  unfold readContacts
  refine bind_ne_error (by cases found <;> nofun) fun text => ?_
  dsimp only
  split
  all_goals
    refine bind_ne_error (fun h => ?_) hlayout
    obtain ⟨f, hread, hf⟩ := mapError_eq_error.1 h
    cases hf
  exact Json.read_plain_ne_tooDeep text (map_eq_error.1 hread)

/-- A fault of a file of contacts is reported, unless it is one of a text in YAML and another one than that the text
stands for no value. -/
theorem isReported_of_readContacts (h : readContacts path found = .error fault) :
    isReported fault = true ∨ ∃ f, fault = .yaml f ∧ f ≠ .unreadable := by
  cases fault with
  | yaml f => exact (em (f = .unreadable)).imp decide_eq_true fun hf => ⟨f, rfl, hf⟩
  | json f =>
    refine .inl (decide_eq_true ?_)
    rintro rfl
    exact readContacts_ne_tooDeep path found h
  | _ => exact .inl rfl

variable [Terminal]

/-- A command that fails says so, if it can be drawn. -/
theorem run_fail {α : Type} (markup : String) (s : Session) :
    (Procedure.fail markup : Procedure α).run.run s =
      if Terminal.draws (.line markup) then (.error (.exit 1), { s with printed := s.printed ++ [.line markup] })
      else (.error (.escape (.undrawn (.line markup))), s) := by
  unfold Procedure.fail Procedure.say Procedure.print
  by_cases hdraws : Terminal.draws (.line markup) = true
  · rw [if_pos hdraws, if_pos hdraws]
    rfl
  · rw [if_neg hdraws, if_neg hdraws]
    rfl

variable [Wording]

/-- What is logged about contacts that cannot be had. -/
def contactsEntry (path : Path) (entry : Entry) (fault : Fault) : String :=
  "Could not load contacts from " ++ path.text ++ ": " ++ fault.message path entry

/-- What is said about them. -/
def contactsLine (path : Path) (entry : Entry) (fault : Fault) : Printed :=
  .line (Text.Markup.styled "red" "Error loading contacts:" ++ " " ++ fault.message path entry)

theorem run_contacts (h : readContacts path (s.workspace.tree.entry path) = .ok among) (logger : String) :
    (contacts logger path).run.run s = (.ok among, s) := by
  unfold contacts
  rw [Triple.run_bind, Procedure.run_entry]
  dsimp only
  rw [h]
  rfl

/-- It is logged why there are no contacts, and then it is said, if it can be drawn. -/
theorem run_contacts_reported (h : readContacts path (s.workspace.tree.entry path) = .error fault)
    (hreported : isReported fault = true) {w' : Workspace}
    (hlog : (Work.log logger .error (contactsEntry path (s.workspace.tree.entry path) fault)).run.run s.workspace =
      (.ok (), w')) :
    (contacts logger path).run.run s =
      let line := contactsLine path (s.workspace.tree.entry path) fault
      if Terminal.draws line then (.error (.exit 1), ⟨w', s.printed ++ [line]⟩)
      else (.error (.escape (.undrawn line)), ⟨w', s.printed⟩) := by
  unfold contacts
  rw [Triple.run_bind, Procedure.run_entry]
  dsimp only
  rw [h]
  dsimp only
  rw [if_pos hreported, Triple.run_bind, Procedure.run_work]
  unfold contactsEntry at hlog
  rw [hlog]
  exact run_fail _ _

theorem run_contacts_escape (h : readContacts path (s.workspace.tree.entry path) = .error fault)
    (hreported : isReported fault = false) (logger : String) :
    (contacts logger path).run.run s = (.error (.escape (.storage fault)), s) := by
  unfold contacts
  rw [Triple.run_bind, Procedure.run_entry]
  dsimp only
  rw [h]
  dsimp only
  rw [hreported, if_neg Bool.false_ne_true]
  rfl

end

/-! ## Contacts that are had -/

/-- What is printed about a resolution before the lines on e-mails that are not shown. -/
def resolutionLines (found : Segment) (among : List Value) (r : Resolution) (limit : Int) : List Printed :=
  (r.errors.map fun error => .line (Text.Markup.styled "red" error)) ++
    [.table (found.name ++ ": " ++ tally r among) ["E-mail"]
      ((shownEmails r.emails limit).map fun email => [email])]

/-- The line that announces `k` more e-mails. -/
def restLine (k : Int) : Printed :=
  .line (Text.Markup.styled "dim" ("... and " ++ toString k ++ " more"))

/-- The line on contacts without an e-mail, if there are any. -/
def skippedLines (skipped : Nat) : List Printed :=
  if skipped = 0 then []
  else [.line (Text.Markup.styled "yellow" (toString skipped ++ " matching contact(s) have no e-mail"))]

/-- Lines about e-mails that are not shown. -/
def noticeLines (r : Resolution) (limit : Int) : List Printed :=
  (announcedRest? r.emails limit).toList.map restLine ++ skippedLines r.skipped

/-- The line that is printed when a count has been stored. -/
def savedLine : Printed :=
  .line (Text.Markup.styled "green" "Contact count saved")

/-- Everything that is printed about a resolution. -/
def evaluationLines (found : Segment) (among : List Value) (r : Resolution) (limit : Int) (save : Bool) :
    List Printed :=
  resolutionLines found among r limit ++ noticeLines r limit ++ if save then [savedLine] else []

/-- The session is about to print `rest`, the end of `lines`, and its workspace has `P`. -/
def Awaits (lines : List Printed) (P : Workspace → Prop) (rest : List Printed) (s : Session) : Prop :=
  P s.workspace ∧ s.printed ++ rest = lines

section

variable [Terminal]

/-- A command that was to print `lines` has been stopped: by one of them, which cannot be drawn, or because segments
could not be stored before the last one. -/
inductive Halted (lines : List Printed) (save : Bool) (e : Escape) (printed : List Printed) : Prop where
  | undrawn (p : Printed) (rest : List Printed) (h : e = .undrawn p) (hdraws : Terminal.draws p = false)
      (hlines : printed ++ p :: rest = lines)
  | unsaved (hsave : save = true) (h : (∃ fault, e = .file fault) ∨ ∃ fault, e = .unwritten fault)
      (hlines : printed ++ [savedLine] = lines)

/-- An escape has stopped the command on the way. -/
def HaltsIn (lines : List Printed) (save : Bool) (stop : Stop) (s : Session) : Prop :=
  ∃ e, stop = .escape e ∧ Halted lines save e s.printed

variable {files : LogFiles} {segment logger : String} {P : Workspace → Prop} {lines rest : List Printed} {save : Bool}

/-- One thing less is left when it has been printed. -/
theorem print_awaits (p : Printed) :
    Triple (Awaits lines P (p :: rest)) (Procedure.print p) (fun _ => Awaits lines P rest)
      (HaltsIn lines save) := by
  unfold Procedure.print
  split
  · refine Triple.modify fun s hs => ⟨hs.1, ?_⟩
    rw [List.append_assoc]
    exact hs.2
  · rename_i hdraws
    exact Triple.throw fun s hs => ⟨_, rfl, .undrawn p rest rfl (Bool.eq_false_iff.2 hdraws) hs.2⟩

omit [Terminal] in
/-- With an open log, logging does not fail. -/
theorem log_awaits {E : Stop → Session → Prop} (level : Level) (message : String) :
    Triple (Awaits lines (Workspace.OpenFor files segment logger) rest)
      (Procedure.work (Work.log logger level message))
      (fun _ => Awaits lines (Workspace.OpenFor files segment logger) rest) E := by
  refine ⟨fun s hs => ?_⟩
  obtain ⟨tree, hrun, hopen, -⟩ := hs.1.log level message
  rw [Procedure.run_work, hrun]
  exact ⟨hopen, hs.2⟩

/-- Errors are logged and said one after the other. -/
theorem errors_awaits (errors : List String) :
    Triple (Awaits lines (Workspace.OpenFor files segment logger)
        ((errors.map fun error => .line (Text.Markup.styled "red" error)) ++ rest))
      (errors.forM fun error => do
        Procedure.work (Work.log logger .error error)
        Procedure.say (Text.Markup.styled "red" error))
      (fun _ => Awaits lines (Workspace.OpenFor files segment logger) rest) (HaltsIn lines save) := by
  induction errors with
  | nil => exact Triple.pure fun _ hs => hs
  | cons error errors ih => exact Triple.bind (Triple.bind (log_awaits _ _) fun _ => print_awaits _) fun _ => ih

/-- The line on contacts without an e-mail is printed if there are any. -/
theorem skipped_awaits {next : Procedure Unit} {Q : Unit → Session → Prop} (skipped : Nat)
    (hnext : Triple (Awaits lines P rest) next Q (HaltsIn lines save)) :
    Triple (Awaits lines P (skippedLines skipped ++ rest)) (do
      if skipped ≠ 0 then
        Procedure.say (Text.Markup.styled "yellow" (toString skipped ++ " matching contact(s) have no e-mail"))
      next) Q (HaltsIn lines save) := by
  unfold skippedLines
  by_cases hskipped : skipped = 0
  · simpa [hskipped] using hnext
  · rw [if_neg hskipped, if_pos hskipped]
    exact Triple.bind (print_awaits _) fun _ => hnext

variable [Limits] [Yaml.Writer] {given : Settings}

/-- Segments could not be stored, because of the files or of the data, and nothing was printed about it. -/
def Unstored (printed : List Printed) (stop : Stop) (s : Session) : Prop :=
  (∃ e, stop = .escape e ∧ ((∃ fault, e = .file fault) ∨ ∃ fault, e = .unwritten fault)) ∧ s.printed = printed

omit [Terminal] in
/-- Storing segments prints nothing; if it fails, this is because of the files or of the data. -/
theorem saveSegments_printed (segments : List Segment) (printed : List Printed) :
    Triple (fun s => s.printed = printed) (saveSegments given segments) (fun _ s => s.printed = printed)
      (Unstored printed) := by
  have hchange : ∀ change, Triple (fun s => s.printed = printed) (Procedure.work (Work.changeTree change))
      (fun _ s => s.printed = printed) (Unstored printed) := fun change => ⟨fun s hs => by
    rw [Procedure.run_work, Work.changeTree_run]
    cases change s.workspace.tree with
    | ok tree => exact hs
    | error fault => exact ⟨⟨_, rfl, .inl ⟨fault, rfl⟩⟩, hs⟩⟩
  have hwritten : ∀ {α : Type} (x : Except WriteFault α), Triple (fun s => s.printed = printed) (orUnwritten x)
      (fun _ s => s.printed = printed) (Unstored printed) := fun x => by
    cases x with
    | ok a => exact Triple.pure fun _ hs => hs
    | error fault => exact Triple.throw fun _ hs => ⟨⟨_, rfl, .inr ⟨fault, rfl⟩⟩, hs⟩
  unfold saveSegments
  exact Triple.bind (hchange _) fun _ => Triple.bind (hwritten _) fun _ => Triple.bind (hchange _) fun _ =>
    Triple.bind (hwritten _) fun _ => Triple.pure fun _ hs => hs

/-- The last step of an evaluation stores segments and says so, if this is asked for. -/
theorem save_awaits (given : Settings) (segments : List Segment) (save : Bool) :
    Triple (Awaits lines P (if save then [savedLine] else []))
      (if save then do
        saveSegments given segments
        Procedure.say (Text.Markup.styled "green" "Contact count saved")
      else Pure.pure ())
      (fun _ => Awaits lines (fun w' => save = true → ∃ w, Stored given segments w w') []) (HaltsIn lines save) := by
  cases save with
  | true =>
    refine Triple.bind (Q := fun _ => Awaits lines (fun w' => ∃ w, Stored given segments w w') [savedLine]) ?_
      fun _ => (print_awaits savedLine).mono (fun _ hs => hs) (fun _ _ hs => ⟨fun _ => hs.1, hs.2⟩) fun _ _ hs => hs
    refine Triple.of_eq fun s₀ hs₀ => ?_
    have hstores : Does (· = s₀.workspace) (saveSegments given segments) _ _ := Does.saveSegments
    refine (Triple.and hstores (saveSegments_printed segments s₀.printed)).mono (fun s hs => ?_) (fun _ s hs => ?_)
      fun stop s hs => ?_
    · exact hs ▸ ⟨rfl, rfl⟩
    · obtain ⟨⟨w, -, hstored⟩, hprinted⟩ := hs
      exact ⟨⟨w, hstored⟩, hprinted ▸ hs₀.2⟩
    · obtain ⟨-, ⟨e, hstop, he⟩, hprinted⟩ := hs
      exact ⟨e, hstop, .unsaved rfl he (hprinted ▸ hs₀.2)⟩
  | false => exact Triple.pure fun s hs => ⟨nofun, hs.2⟩

/-- What an evaluation does with the contacts once it has them. -/
def resolveAmong (given : Settings) (c : Catalogue) (stored : List Segment) (s : Segment) (logger : String)
    (limit : Int) (save : Bool) (found : List Value) : Procedure Unit := do
  let now := (← get).workspace.now
  let r ← Procedure.orFailure (s.resolve found ⟨c, .system, now⟩).1
  Procedure.work (Work.log logger .info ("Matched " ++ tally r found ++ " in 0.0ms"))
  r.errors.forM fun error => do
    Procedure.work (Work.log logger .error error)
    Procedure.say (Text.Markup.styled "red" error)
  Procedure.print (.table (s.name ++ ": " ++ tally r found) ["E-mail"]
    ((shownEmails r.emails limit).map fun email => [email]))
  if let some rest := announcedRest? r.emails limit then
    Procedure.say (Text.Markup.styled "dim" ("... and " ++ toString rest ++ " more"))
  if r.skipped ≠ 0 then
    Procedure.say (Text.Markup.styled "yellow" (toString r.skipped ++ " matching contact(s) have no e-mail"))
  if save then
    saveSegments given (Segment.replace stored (s.withContactCount r.total now))
    Procedure.say (Text.Markup.styled "green" "Contact count saved")

variable {opened : Workspace} {c : Catalogue} {found : Segment} {among : List Value}

/-- An evaluation that can resolve its segment prints what there is to be printed about the resolution. It is stopped
only by what cannot be drawn, or where the segments cannot be stored. -/
theorem resolveAmong_awaits {files : LogFiles} {segment : String} {r : Resolution}
    (hopen : opened.OpenFor files segment logger)
    (hr : (found.resolve among ⟨c, .system, opened.now⟩).1 = .ok r) (given : Settings) (stored : List Segment)
    (limit : Int) (save : Bool) :
    let lines := evaluationLines found among r limit save
    Triple (· = ⟨opened, []⟩) (resolveAmong given c stored found logger limit save among)
      (fun _ => Awaits lines (fun w' => save = true → ∃ w,
        Stored given (Segment.replace stored (found.withContactCount r.total opened.now)) w w') [])
      (HaltsIn lines save) := by
  intro lines
  unfold resolveAmong
  refine Triple.get_bind ?_
  dsimp only
  rw [hr]
  simp only [Procedure.orFailure, pure_bind]
  have hlines : (r.errors.map fun error => .line (Text.Markup.styled "red" error)) ++
      (.table (found.name ++ ": " ++ tally r among) ["E-mail"]
        ((shownEmails r.emails limit).map fun email => [email]) ::
      ((announcedRest? r.emails limit).toList.map restLine ++
        (skippedLines r.skipped ++ if save then [savedLine] else []))) = lines := by
    simp only [lines, evaluationLines, resolutionLines, noticeLines, List.append_assoc, List.cons_append,
      List.nil_append]
  have hstart : Awaits lines (Workspace.OpenFor files segment logger) _ ⟨opened, []⟩ := ⟨hopen, hlines⟩
  refine Triple.mono ?_ (fun _ hs => hs ▸ hstart) (fun _ _ hs => hs) fun _ _ hs => hs
  refine Triple.bind (log_awaits _ _) fun _ => Triple.bind (errors_awaits r.errors) fun _ =>
    Triple.bind (print_awaits _) fun _ => ?_
  -- Each notice is there or not, and the last step comes after it.
  cases announcedRest? r.emails limit with
  | some rest => exact Triple.bind (print_awaits _) fun _ => skipped_awaits r.skipped (save_awaits given _ save)
  | none => exact skipped_awaits r.skipped (save_awaits given _ save)

/-- An e-mail without a text stops it. -/
theorem run_resolveAmong_failure {failure : Failure}
    (hfailure : (found.resolve among ⟨c, .system, opened.now⟩).1 = .error failure) (limit : Int) (save : Bool) :
    (resolveAmong given c stored found logger limit save among).run.run ⟨opened, []⟩ =
      (.error (.escape (.failure failure)), ⟨opened, []⟩) := by
  unfold resolveAmong
  rw [Triple.run_bind, Procedure.run_get]
  dsimp only
  rw [hfailure]
  rfl

end

/-! ## Runs -/

section

variable [Terminal] [Wording] [Limits] [Yaml.Writer] {w opened : Workspace} {name logger : String} {given : Settings}
  {c : Catalogue} {stored : List Segment} {found : Segment} {among : List Value}

theorem evaluate_eq (name : String) (contactsPath : Option Path) (limit : Int) (save : Bool) :
    Console.evaluate name contactsPath limit save = (do
      let given ← Procedure.settings
      let c ← catalogue given
      let stored ← segments given
      let s ← requireSegment stored name
      let _ ← Procedure.work (Work.setUpJournal (some given))
      let logger ← Procedure.work (Work.segmentLogger s.name)
      contacts logger (contactsPath.getD given.contactsPath) >>=
        resolveAmong given c stored s logger limit save) :=
  rfl

/-- An evaluation that is ready goes on with its contacts. -/
theorem run_evaluate_ready (h : Ready w name given c stored found logger opened) (contactsPath : Option Path)
    (limit : Int) (save : Bool) :
    (Console.evaluate name contactsPath limit save).run.run ⟨w, []⟩ =
      (contacts logger (contactsPath.getD given.contactsPath) >>=
        resolveAmong given c stored found logger limit save).run.run ⟨opened, []⟩ := by
  have hlog := h.log
  rw [Work.openLog, Triple.run_bind] at hlog
  rw [evaluate_eq, Triple.run_bind, Procedure.run_settings (s := ⟨w, []⟩) h.settings]
  dsimp only
  rw [Triple.run_bind, run_catalogue (s := ⟨w, []⟩) h.catalogue]
  dsimp only
  rw [Triple.run_bind, run_segments (s := ⟨w, []⟩) h.loaded]
  dsimp only
  rw [Triple.run_bind, run_requireSegment h.addressed]
  dsimp only
  rw [Triple.run_bind, Procedure.run_work]
  dsimp only
  revert hlog
  rcases (Work.setUpJournal (some given)).run.run { w with ids := (w.loading given).2 } with ⟨e | files, w'⟩
  · nofun
  · intro hlog
    dsimp only at hlog ⊢
    rw [Triple.run_bind, Procedure.run_work]
    dsimp only
    rw [hlog]

/-- An evaluation has reported that there are no contacts: the log of the segment and the log for errors have an entry
about it, if errors are logged at all. It has said so and nothing has escaped, unless this line cannot be drawn. -/
structure Reports (files : LogFiles) (segment : String) (path : Path) (fault : Fault) (opened : Workspace)
    (ran : Ending × Workspace) : Prop where
  code : ran.1.code = 1
  said : let line := contactsLine path (opened.tree.entry path) fault
    if Terminal.draws line then ran.1.printed = [line] ∧ ran.1.escape = none
    else ran.1.printed = [] ∧ ran.1.escape = some (.undrawn line)
  logged : files.threshold.number ≤ Level.error.number → safeName segment ≠ "error" →
    Workspace.Routed files [segment] segment .error (contactsEntry path (opened.tree.entry path) fault) opened ran.2

/-- An evaluation has resolved its segment: it has shown the resolution, and the new count is stored if this is asked
for; or it was stopped by what cannot be drawn, or because the count could not be stored. -/
structure Resolves (given : Settings) (stored : List Segment) (found : Segment) (among : List Value) (r : Resolution)
    (limit : Int) (save : Bool) (now : Calendar.DateTime) (ran : Ending × Workspace) : Prop where
  ended : ran.1.code = 0 ∧ ran.1.escape = none ∧ ran.1.printed = evaluationLines found among r limit save ∧
      (save = true → ∃ w, Stored given (Segment.replace stored (found.withContactCount r.total now)) w ran.2) ∨
    ran.1.code = 1 ∧ ∃ e, ran.1.escape = some e ∧ Halted (evaluationLines found among r limit save) save e ran.1.printed

omit [Wording] in
theorem resolveAmong_resolves {files : LogFiles} {segment : String} {r : Resolution}
    (hopen : opened.OpenFor files segment logger)
    (hr : (found.resolve among ⟨c, .system, opened.now⟩).1 = .ok r) (given : Settings) (stored : List Segment)
    (limit : Int) (save : Bool) :
    Resolves given stored found among r limit save opened.now
      (ending ((resolveAmong given c stored found logger limit save among).run.run ⟨opened, []⟩)) := by
  have hawaits := (resolveAmong_awaits hopen hr given stored limit save).run ⟨opened, []⟩ rfl
  rcases hresult : (resolveAmong given c stored found logger limit save among).run.run ⟨opened, []⟩ with
    ⟨stop | ⟨⟩, s⟩
  · rw [hresult] at hawaits
    obtain ⟨e, rfl, hhalted⟩ := hawaits
    exact ⟨.inr ⟨rfl, e, rfl, hhalted⟩⟩
  · rw [hresult] at hawaits
    obtain ⟨hstored, hprinted⟩ := hawaits
    exact ⟨.inl ⟨rfl, rfl, (List.append_nil _).symm.trans hprinted, hstored⟩⟩

/-- An evaluation that is not to store its count leaves all files alone that are no log files. -/
theorem Command.lookup_run_evaluate {p : Path} (h : Ready w name given c stored found logger opened)
    (hjournal : w.journal.WritesIn fun q => w.tree.place q ≠ p)
    (hlogs : (LogFiles.ofSettings given).LieIn fun q => w.tree.place q ≠ p) (contactsPath : Option Path) (limit : Int) :
    ((Command.evaluate name contactsPath limit false).run w).2.tree.files.lookup p = w.tree.files.lookup p := by
  let w₀ : Workspace := { w with ids := (w.loading given).2 }
  have hkeep : ∀ given', w.given = .ok given' → LogsKeep given' { w with ids := (w.loading given').2 }
      (fun w' => w₀.OpensLogs p w' ∧ w'.journal.files.isSome) (w₀.OpensLogs p) (w₀.Spares p) fun _ => True := by
    intro given' hgiven
    cases h.settings.symm.trans hgiven
    exact logsKeep hjournal hlogs
  have hdoes : Does (· = w) (Command.evaluate name contactsPath limit false).action _ _ := Does.evaluate hkeep
  obtain ⟨hok, hstopped⟩ := Command.run_of_does hdoes
  have hresolved : ∀ outcome w', Resolved outcome w name false (w₀.Spares p) (fun _ => True) w' →
      w'.tree.files.lookup p = w.tree.files.lookup p := by
    rintro outcome w' ⟨given', stored', found', w₁, -, hspares, rfl⟩
    exact hspares.file
  by_cases hcode : ((Command.evaluate name contactsPath limit false).run w).1.code = 0
  · exact hresolved _ _ (hok hcode)
  · obtain ⟨stop, -, ⟨ids, -, heq⟩ | hspares | hunsaved | ⟨-, hstored⟩⟩ := hstopped hcode
    · rw [heq]
    · exact hspares.file
    · exact hresolved _ _ hunsaved
    · exact hresolved _ _ hstored

/-- An evaluation that is ready ends like the part of it that is about its contacts. -/
theorem Command.run_evaluate_eq (h : Ready w name given c stored found logger opened) (contactsPath : Option Path)
    (limit : Int) (save : Bool) :
    (Command.evaluate name contactsPath limit save).run w =
      ending ((contacts logger (contactsPath.getD given.contactsPath) >>=
        resolveAmong given c stored found logger limit save).run.run ⟨opened, []⟩) :=
  (Command.run_eq _ w).trans (congrArg ending (run_evaluate_ready h contactsPath limit save))

variable {fault : Fault} {contactsPath : Option Path}

/-- A fault that is reported changes nothing but the logs. -/
theorem Command.run_evaluate_reported (h : Ready w name given c stored found logger opened)
    (hfault : readContacts (contactsPath.getD given.contactsPath)
      (opened.tree.entry (contactsPath.getD given.contactsPath)) = .error fault)
    (hreported : isReported fault = true) (limit : Int) (save : Bool) :
    let path := contactsPath.getD given.contactsPath
    let ran := (Command.evaluate name contactsPath limit save).run w
    Reports (.ofSettings given) found.name path fault opened ran ∧
      ∃ message, (Work.log logger .error message).run.run opened = (.ok (), ran.2) := by
  intro path ran
  have hrun : ran = _ := run_evaluate_eq h contactsPath limit save
  obtain ⟨tree, hlog, -, hrouted⟩ := h.openFor.log .error (contactsEntry path (opened.tree.entry path) fault)
  rw [Triple.run_bind, run_contacts_reported (s := ⟨opened, []⟩) hfault hreported hlog] at hrun
  by_cases hdraws : Terminal.draws (contactsLine path (opened.tree.entry path) fault) = true
  all_goals
    simp only [path, hdraws, if_true, Bool.false_eq_true, if_false] at hrun
    refine ⟨?_, _, by rw [hrun]; exact hlog⟩
    rw [hrun]
    refine ⟨rfl, ?_, hrouted⟩
  · rw [if_pos hdraws]
    exact ⟨rfl, rfl⟩
  · rw [if_neg hdraws]
    exact ⟨rfl, rfl⟩

/-- Any other fault escapes. -/
theorem Command.run_evaluate_escape (h : Ready w name given c stored found logger opened)
    (hfault : readContacts (contactsPath.getD given.contactsPath)
      (opened.tree.entry (contactsPath.getD given.contactsPath)) = .error fault)
    (hreported : isReported fault = false) (limit : Int) (save : Bool) :
    (Command.evaluate name contactsPath limit save).run w = (⟨1, [], some (.storage fault)⟩, opened) := by
  rw [run_evaluate_eq h, Triple.run_bind, run_contacts_escape (s := ⟨opened, []⟩) hfault hreported]
  rfl

/-- An e-mail without a text escapes. -/
theorem Command.run_evaluate_failure (h : Ready w name given c stored found logger opened)
    (hamong : readContacts (contactsPath.getD given.contactsPath)
      (opened.tree.entry (contactsPath.getD given.contactsPath)) = .ok among) {failure : Failure}
    (hfailure : (found.resolve among ⟨c, .system, opened.now⟩).1 = .error failure) (limit : Int) (save : Bool) :
    (Command.evaluate name contactsPath limit save).run w = (⟨1, [], some (.failure failure)⟩, opened) := by
  rw [run_evaluate_eq h, Triple.run_bind, run_contacts (s := ⟨opened, []⟩) hamong]
  exact congrArg ending (run_resolveAmong_failure hfailure limit save)

/-- All files but the logs stay as they are if the contacts cannot be had or resolved. -/
theorem Command.lookup_run_evaluate_of_unresolved {p : Path} (h : Ready w name given c stored found logger opened)
    (hjournal : w.journal.WritesIn fun q => w.tree.place q ≠ p)
    (hlogs : (LogFiles.ofSettings given).LieIn fun q => w.tree.place q ≠ p)
    (hnone : ∀ among r, readContacts (contactsPath.getD given.contactsPath)
      (opened.tree.entry (contactsPath.getD given.contactsPath)) = .ok among →
        (found.resolve among ⟨c, .system, opened.now⟩).1 ≠ .ok r) (limit : Int) (save : Bool) :
    ((Command.evaluate name contactsPath limit save).run w).2.tree.files.lookup p = w.tree.files.lookup p := by
  have hspares := h.spares hjournal hlogs
  cases hread : readContacts (contactsPath.getD given.contactsPath)
      (opened.tree.entry (contactsPath.getD given.contactsPath)) with
  | error fault =>
    cases hreported : isReported fault with
    | true =>
      obtain ⟨-, message, hlog⟩ := run_evaluate_reported h hread hreported limit save
      exact ((Triple.log logger .error message).ok hspares hlog).file
    | false =>
      rw [run_evaluate_escape h hread hreported]
      exact hspares.file
  | ok among =>
    cases hr : (found.resolve among ⟨c, .system, opened.now⟩).1 with
    | ok r => exact absurd hr (hnone among r hread)
    | error failure =>
      rw [run_evaluate_failure h hread hr]
      exact hspares.file

/-- Once its log is open, an evaluation resolves its segment or it reports that the contacts cannot be had, with two
exceptions: a text that is no YAML document, or that has a value of another fault than that its text stands for none,
and contacts with an e-mail that has no text stop the command with what has happened. All files but the logs stay as
they are if the contacts cannot be had or resolved, or if no count is to be stored. -/
theorem Command.run_evaluate (h : Ready w name given c stored found logger opened) (contactsPath : Option Path)
    (limit : Int) (save : Bool) :
    let path := contactsPath.getD given.contactsPath
    let ran := (Command.evaluate name contactsPath limit save).run w
    (∀ fault, readContacts path (opened.tree.entry path) = .error fault →
        ((∀ f, fault = .yaml f → f = .unreadable) → Reports (.ofSettings given) found.name path fault opened ran) ∧
        ∀ f, fault = .yaml f → f ≠ .unreadable → ran = (⟨1, [], some (.storage (.yaml f))⟩, opened)) ∧
      (∀ among, readContacts path (opened.tree.entry path) = .ok among →
        (∀ r, (found.resolve among ⟨c, .system, opened.now⟩).1 = .ok r →
          Resolves given stored found among r limit save opened.now ran) ∧
        ∀ failure, (found.resolve among ⟨c, .system, opened.now⟩).1 = .error failure →
          ran = (⟨1, [], some (.failure failure)⟩, opened)) ∧
      ∀ p, (w.journal.WritesIn fun q => w.tree.place q ≠ p) →
        ((LogFiles.ofSettings given).LieIn fun q => w.tree.place q ≠ p) →
          (save = true → ∀ among r, readContacts path (opened.tree.entry path) = .ok among →
            (found.resolve among ⟨c, .system, opened.now⟩).1 ≠ .ok r) →
          ran.2.tree.files.lookup p = w.tree.files.lookup p := by
  intro path ran
  refine ⟨fun fault hfault => ⟨fun hknown => ?_, ?_⟩, fun among hamong => ⟨fun r hr => ?_, fun failure hfailure => ?_⟩,
    fun p hjournal hlogs hnone => ?_⟩
  · have hreported : isReported fault = true := (isReported_of_readContacts hfault).resolve_right
      fun ⟨f, hf, hne⟩ => hne (hknown f hf)
    exact (run_evaluate_reported h hfault hreported limit save).1
  · rintro f rfl hunknown
    exact run_evaluate_escape h hfault (decide_eq_false hunknown) limit save
  · have hrun : ran = _ := run_evaluate_eq h contactsPath limit save
    rw [Triple.run_bind, run_contacts (s := ⟨opened, []⟩) hamong] at hrun
    rw [hrun]
    exact resolveAmong_resolves h.openFor hr given stored limit save
  · exact run_evaluate_failure h hamong hfailure limit save
  · cases save with
    | false => exact lookup_run_evaluate h hjournal hlogs contactsPath limit
    | true => exact lookup_run_evaluate_of_unresolved h hjournal hlogs (hnone rfl) limit true

end

/-! ## Runs from a workspace -/

/-- The workspace in which an evaluation comes to its contacts, if it does. -/
def openedFor? [Limits] (w : Workspace) (name : String) : Option Workspace :=
  match w.given with
  | .error _ => none
  | .ok given =>
    match w.catalogued given, (w.loading given).1 with
    | .ok _, .ok stored =>
      match Segment.find? stored name with
      | none => none
      | some found =>
        match (Work.openLog given found.name).run.run { w with ids := (w.loading given).2 } with
        | (.ok _, opened) => some opened
        | (.error _, _) => none
    | _, _ => none

theorem exists_ready [Limits] {w opened : Workspace} {name : String} (hjournal : w.journal = .empty)
    (h : openedFor? w name = some opened) :
    ∃ given c stored found logger, Ready w name given c stored found logger opened := by
  have hkeeps : w.Keeps [] := .bare (hjournal ▸ bare_empty)
  unfold openedFor? at h
  split at h
  · cases h
  · rename_i given hgiven
    split at h
    · rename_i c stored hc hstored
      split at h
      · cases h
      · rename_i found hfound
        split at h
        · rename_i logger w' hlog
          cases h
          exact ⟨given, c, stored, found, logger, ⟨hgiven, hstored, hfound⟩, hc, ⟨[], hkeeps⟩, hlog⟩
        · cases h
    · cases h

/-- A workspace with a static segment and a file of contacts. -/
def withContacts (name text : String) : Workspace where
  home := ⟨"/", []⟩
  environment := [("AUDIENCE_BUILDER_CONFIG_DIR", "/")]
  tree := ⟨⟨"/", []⟩, [(⟨"/", ["segments.yaml"]⟩, "\x7bsegments: [\x7bid: s, name: Beta, type: static\x7d]\x7d"),
    (⟨"/", [name]⟩, text)], [], []⟩
  journal := .empty
  now := default
  ids := ⟨0⟩

/-- A number is no list of contacts, which is reported. -/
theorem Command.run_evaluate_number :
    let w := withContacts "contacts.json" "7"
    let path : Path := ⟨"/", ["contacts.json"]⟩
    let fault : Fault := .layout .contactsInNoList
    ∃ given c stored found logger opened, Ready w "Beta" given c stored found logger opened ∧
      readContacts path (opened.tree.entry path) = .error fault ∧
        Reports (.ofSettings given) found.name path fault opened
          ((Command.evaluate "Beta" (some path) 20 false).run w) := by
  intro w path fault
  have hentries : (openedFor? w "Beta").map (·.tree.entry path) = some (.file "7") := by decide +kernel
  obtain ⟨opened, hopened, hentry⟩ := Option.map_eq_some_iff.1 hentries
  obtain ⟨given, c, stored, found, logger, hready⟩ := exists_ready rfl hopened
  have hread : readContacts path (opened.tree.entry path) = .error fault := by
    have hyaml : isYaml path = false := by decide +kernel
    rw [hentry]
    unfold readContacts
    rw [hyaml]
    rfl
  refine ⟨given, c, stored, found, logger, opened, hready, hread, ?_⟩
  exact ((Command.run_evaluate hready (some path) 20 false).1 fault hread).1 nofun

/-- A bracket is no YAML document: nothing is said about it, and what has happened escapes. So it does where the file
is missing and its name ends a style that nothing has begun. -/
theorem Command.not_reports_bracket :
    let w := withContacts "contacts.yaml" "["
    (openedFor? w "Beta").isSome = true ∧ ∀ file ∈ ["contacts.yaml", "[/x].json"],
      let ran := Console.run ["segments", "evaluate", "Beta", "-f", file] w
      ran.1.code = 1 ∧ ran.1.printed.length = 0 ∧ ran.1.escape.isSome = true := by
  decide +kernel

end Console

end Segmentation
