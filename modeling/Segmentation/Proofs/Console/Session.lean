import Segmentation.Console.Run
import Segmentation.Proofs.Storage.FileTree
import Segmentation.Proofs.Storage.Layout
import Segmentation.Proofs.Triple

/-!
# What commands do with a workspace

`Does P x Q E` is a triple for the steps of a command that is about the workspace alone: a step that stops
the command gives another exit code than 0, and what holds then may depend on the stop.

* `Does.settings_bind`, `Does.catalogue_bind`, `Does.segments_bind`, `Does.requireSegment_bind`: the steps
  with which commands start.
* `Stored`, `Unsaved`, `Does.saveSegments`: storing segments writes their text, or it changes no file, or it leaves an
  empty one where they have no text.
* `run_catalogue`, `run_segments`, `run_requireSegment`: how these steps run where they succeed.
* `Command.run_eq`, `Command.run_of_does`: from the steps of a command to its run.
-/

namespace Segmentation

open Storage

/-- What loading the stored segments gives, and the supply of identifiers after it. -/
def Workspace.loading [Limits] (w : Workspace) (given : Settings) : Except Fault (List Segment) × IdSupply :=
  (readSegments w.now (w.tree.entry given.segmentsPath)).run w.ids

/-- The catalogue that the settings name, as it is found in the workspace. -/
def Workspace.catalogued (w : Workspace) (given : Settings) : Except Fault Catalogue :=
  match given.cataloguePath? with
  | none => .ok .contact
  | some path => readCatalogue (w.tree.entry path)

/-- A command can have drawn identifiers up to `ids`: none, or those that loading takes and `n` more. -/
inductive Workspace.Draws [Limits] (w : Workspace) : IdSupply → Prop where
  | none : w.Draws w.ids
  | loaded {given : Settings} (h : w.given = .ok given) (n : Nat) :
      w.Draws ⟨(w.loading given).2.next + n⟩

namespace Console

namespace Stop

/-- The exit code of a command that was stopped. -/
def code : Stop → Nat
  | exit code => code
  | escape _ => 1

/-- What escaped from a command that was stopped. -/
def escape? : Stop → Option Escape
  | exit _ => none
  | escape e => some e

/-- The command was stopped by something that the terminal cannot draw. -/
def IsUndrawn (stop : Stop) : Prop :=
  ∃ p, stop = escape (.undrawn p)

theorem isUndrawn (p : Printed) : IsUndrawn (escape (.undrawn p)) :=
  ⟨p, rfl⟩

end Stop

/-- From a workspace with `P` the steps lead to a result and a workspace with `Q`, or to a stop with another exit code
than 0 and a workspace with `E`. -/
def Does {α : Type} (P : Workspace → Prop) (x : Procedure α) (Q : α → Workspace → Prop)
    (E : Stop → Workspace → Prop) : Prop :=
  Triple (fun s => P s.workspace) x (fun a s => Q a s.workspace)
    fun stop s => stop.code ≠ 0 ∧ E stop s.workspace

theorem Procedure.run_get (s : Session) : (get : Procedure Session).run.run s = (.ok s, s) := rfl

/-- A step that is work in the workspace runs that work. -/
theorem Procedure.run_work {α : Type} (x : Work α) (s : Session) :
    (Procedure.work x).run.run s = match x.run.run s.workspace with
      | (.ok a, w) => (.ok a, { s with workspace := w })
      | (.error e, w) => (.error (.escape e), { s with workspace := w }) := by
  unfold Procedure.work
  rw [Triple.run_bind, Procedure.run_get]
  dsimp only
  rcases x.run.run s.workspace with ⟨e | a, w⟩ <;> rfl

/-- `w'` is `w` with other directories at most. -/
def SameFiles (w w' : Workspace) : Prop :=
  ∃ tree, tree.work = w.tree.work ∧ tree.files = w.tree.files ∧ tree.barriers = w.tree.barriers ∧
    w' = { w with tree }

theorem SameFiles.refl (w : Workspace) : SameFiles w w :=
  ⟨w.tree, rfl, rfl, rfl, rfl⟩

theorem SameFiles.makeDirectory {w : Workspace} {path : Path} {tree : FileTree}
    (h : w.tree.makeDirectory path = .ok tree) : SameFiles w { w with tree } :=
  ⟨tree, FileTree.work_makeDirectory h, FileTree.files_makeDirectory h, FileTree.barriers_makeDirectory h, rfl⟩

/-- `w'` is `w` with a text in the file of segments, whose directory has been made. -/
def Rewritten (given : Settings) (text : String) (w w' : Workspace) : Prop :=
  ∃ tree tree', w.tree.makeDirectory given.segmentsPath.parent = .ok tree ∧
    tree.write given.segmentsPath text = .ok tree' ∧ w' = { w with tree := tree' }

theorem Rewritten.entry {given : Settings} {text : String} {w w' : Workspace} (h : Rewritten given text w w') :
    w'.tree.entry given.segmentsPath = .file text := by
  obtain ⟨_, _, -, hwritten, rfl⟩ := h
  exact FileTree.entry_write hwritten

section

variable [Limits] [Yaml.Writer]

/-- `w'` is `w` with segments stored where the settings say. -/
def Stored (given : Settings) (segments : List Segment) (w w' : Workspace) : Prop :=
  ∃ text, segmentsText segments = .ok text ∧ Rewritten given text w w'

/-- What is left where segments could not be stored: no file has changed, or that of segments is empty because they
have no text. -/
def Unsaved (given : Settings) (segments : List Segment) (w w' : Workspace) : Prop :=
  SameFiles w w' ∨ (∀ text, segmentsText segments ≠ .ok text) ∧ Rewritten given "" w w'

/-- Segments that have a text are stored, or nothing changes. -/
theorem Unsaved.sameFiles {given : Settings} {segments : List Segment} {w w' : Workspace} {text : String}
    (h : Unsaved given segments w w') (htext : segmentsText segments = .ok text) : SameFiles w w' :=
  h.resolve_right fun hempty => hempty.1 text htext

end

namespace Does

variable {α β : Type} {P P' : Workspace → Prop} {Q Q' : α → Workspace → Prop} {R : β → Workspace → Prop}
  {E E' : Stop → Workspace → Prop}

theorem pure {a : α} (h : ∀ w, P w → Q a w) : Does P (pure a) Q E :=
  Triple.pure fun s hs => h s.workspace hs

theorem throw {stop : Stop} (hcode : stop.code ≠ 0) (h : ∀ w, P w → E stop w) :
    Does P (throw stop : Procedure α) Q E :=
  Triple.throw fun s hs => ⟨hcode, h s.workspace hs⟩

theorem bind {x : Procedure α} {f : α → Procedure β} (hx : Does P x Q E)
    (hf : ∀ a, Does (Q a) (f a) R E) : Does P (x >>= f) R E :=
  Triple.bind hx hf

theorem mono {x : Procedure α} (h : Does P x Q E) (hP : ∀ w, P' w → P w) (hQ : ∀ a w, Q a w → Q' a w)
    (hE : ∀ stop w, E stop w → E' stop w) : Does P' x Q' E' :=
  Triple.mono h (fun s => hP s.workspace) (fun a s => hQ a s.workspace)
    fun stop s h => ⟨h.1, hE stop s.workspace h.2⟩

/-- What holds of every single workspace holds of all. -/
theorem of_eq {x : Procedure α} (h : ∀ w, P w → Does (· = w) x Q E) : Does P x Q E :=
  ⟨fun s hs => (h s.workspace hs).run s rfl⟩

/-- What does not speak of the workspace may be taken out of what holds before. -/
theorem of_and {A : Prop} {x : Procedure α} (h : A → Does P x Q E) : Does (fun w => A ∧ P w) x Q E :=
  ⟨fun s hs => (h hs.1).run s hs.2⟩

theorem get {Q : Session → Workspace → Prop} (h : ∀ s, P s.workspace → Q s s.workspace) :
    Does P (get : Procedure Session) Q E :=
  Triple.get h

theorem forM {xs : List α} {f : α → Procedure PUnit} (h : ∀ a ∈ xs, Does P (f a) (fun _ => P) E) :
    Does P (xs.forM f) (fun _ => P) E :=
  Triple.forM h

/-- Work is a step of a command; what escapes from it stops the command. -/
theorem work {x : Work α} (h : Triple P x Q fun e => E (.escape e)) : Does P (Procedure.work x) Q E := by
  refine ⟨fun s hs => ?_⟩
  have h := h.run s.workspace hs
  rw [Procedure.run_work]
  rcases hx : x.run.run s.workspace with ⟨e | a, w⟩ <;> rw [hx] at h
  · exact ⟨Nat.one_ne_zero, h⟩
  · exact h

theorem orFailure {x : Except Failure α} (hok : ∀ a w, x = .ok a → P w → Q a w)
    (h : ∀ failure w, P w → E (.escape (.failure failure)) w) : Does P (Procedure.orFailure x) Q E := by
  cases x with
  | error failure => exact throw Nat.one_ne_zero (h failure)
  | ok a => exact pure fun w hw => hok a w rfl hw

theorem orUnwritten {x : Except WriteFault α} (hok : ∀ a w, x = .ok a → P w → Q a w)
    (h : ∀ fault w, x = .error fault → P w → E (.escape (.unwritten fault)) w) :
    Does P (Console.orUnwritten x) Q E := by
  cases x with
  | error fault => exact throw Nat.one_ne_zero fun w hw => h fault w rfl hw
  | ok a => exact pure fun w hw => hok a w rfl hw

theorem entry {p : Path} {Q : Entry → Workspace → Prop} (h : ∀ w, P w → Q (w.tree.entry p) w) :
    Does P (Procedure.entry p) Q E :=
  work (Triple.entry h)

section

variable [Terminal]

/-- What is printed changes nothing, but the terminal may refuse it. -/
theorem print {p : Printed} (hstop : ∀ w, P w → E (.escape (.undrawn p)) w) :
    Does P (Procedure.print p) (fun _ => P) E := by
  unfold Procedure.print
  split
  · exact Triple.modify fun _ hs => hs
  · exact throw Nat.one_ne_zero hstop

theorem say {markup : String} (hstop : ∀ p w, P w → E (.escape (.undrawn p)) w) :
    Does P (Procedure.say markup) (fun _ => P) E :=
  print (hstop _)

/-- A line is said under a condition, and the command goes on. -/
theorem say_if {p : Prop} [Decidable p] {markup : String} {next : Procedure Unit} {R : Unit → Workspace → Prop}
    (hstop : ∀ p w, P w → E (.escape (.undrawn p)) w) (hnext : Does P next R E) :
    Does P (do
      if p then Procedure.say markup
      next) R E := by
  split
  · exact bind (say hstop) fun _ => hnext
  · exact hnext

theorem fail {markup : String} (h : ∀ stop w, P w → E stop w) :
    Does P (Procedure.fail markup : Procedure α) Q E :=
  bind (say fun _ => h _) fun _ => throw Nat.one_ne_zero (h _)

theorem reading [Wording] {problem : String} {path : Path} {found : Entry} {x : Except Fault α}
    (hok : ∀ a w, x = .ok a → P w → Q a w) (h : ∀ stop w, P w → E stop w) :
    Does P (Console.reading problem path found x) Q E := by
  cases x with
  | ok a => exact pure fun w hw => hok a w rfl hw
  | error fault =>
    simp only [Console.reading]
    split
    · exact fail h
    · exact throw Nat.one_ne_zero (h _)

end

/-! ### The first steps of commands, from one workspace -/

section

variable {w : Workspace} {given : Settings}

theorem get_bind {f : Session → Procedure β} (h : ∀ s, s.workspace = w → Does (· = w) (f s) R E) :
    Does (· = w) (MonadState.get >>= f) R E :=
  bind (get (Q := fun s w' => s.workspace = w ∧ w' = w) fun _ hs => ⟨hs, hs⟩) fun s =>
    ⟨fun s' hs' => (h s hs'.1).run s' hs'.2⟩

theorem settings_bind {f : Settings → Procedure β} (hstop : ∀ stop, E stop w)
    (h : ∀ given, w.given = .ok given → Does (· = w) (f given) R E) :
    Does (· = w) (Procedure.settings >>= f) R E := by
  refine bind (Q := fun given w' => w' = w ∧ w'.given = .ok given) (work ?_) fun given =>
    ⟨fun s hs => (h given (hs.1 ▸ hs.2)).run s hs.1⟩
  exact Triple.settings.mono (fun _ hw => hw) (fun _ _ hw => hw) fun _ _ hw => hw ▸ hstop _

variable [Terminal] [Wording]

theorem catalogue_bind {f : Catalogue → Procedure β} (hstop : ∀ stop, E stop w)
    (h : ∀ c, w.catalogued given = .ok c → Does (· = w) (f c) R E) :
    Does (· = w) (Console.catalogue given >>= f) R E := by
  refine bind (Q := fun c w' => w.catalogued given = .ok c ∧ w' = w) ?_ fun c =>
    ⟨fun s hs => (h c hs.1).run s hs.2⟩
  unfold Console.catalogue
  cases hpath : given.cataloguePath? with
  | none => exact pure fun _ hw => ⟨by rw [Workspace.catalogued, hpath], hw⟩
  | some path =>
    refine bind (entry (Q := fun found w' => found = w.tree.entry path ∧ w' = w) ?_) fun found => of_and ?_
    · rintro _ rfl
      exact ⟨rfl, rfl⟩
    · rintro rfl
      exact reading (fun _ _ hread hw => ⟨by rw [Workspace.catalogued, hpath]; exact hread, hw⟩)
        fun stop _ hw => hw ▸ hstop stop

/-- Loading segments draws identifiers and changes nothing else. -/
theorem segments_bind [Limits] {f : List Segment → Procedure β}
    (hstop : ∀ stop, E stop { w with ids := (w.loading given).2 })
    (h : ∀ stored, (w.loading given).1 = .ok stored →
      Does (· = { w with ids := (w.loading given).2 }) (f stored) R E) :
    Does (· = w) (Console.segments given >>= f) R E := by
  refine bind (Q := fun stored w' => (w.loading given).1 = .ok stored ∧
    w' = { w with ids := (w.loading given).2 }) ?_ fun stored =>
      ⟨fun s hs => (h stored hs.1).run s hs.2⟩
  unfold Console.segments
  refine bind (entry (Q := fun found w' => found = w.tree.entry given.segmentsPath ∧ w' = w) ?_)
    fun found => of_eq fun w' hw => ?_
  · rintro _ rfl
    exact ⟨rfl, rfl⟩
  obtain ⟨rfl, rfl⟩ := hw
  refine get_bind fun s hs => ?_
  rw [hs]
  refine bind (work (Triple.drawing (Q := fun read w'' =>
    read = (w'.loading given).1 ∧ w'' = { w' with ids := (w'.loading given).2 }) ?_)) fun read =>
    reading ?_ ?_
  · rintro _ rfl
    exact ⟨rfl, rfl⟩
  · rintro stored w'' hread ⟨hload, hw'⟩
    exact ⟨hload.symm.trans hread, hw'⟩
  · rintro stop _ ⟨-, rfl⟩
    exact hstop stop

omit [Wording] in
theorem requireSegment_bind {stored : List Segment} {name : String} {f : Segment → Procedure β}
    (hstop : ∀ stop, E stop w) (h : ∀ s, Segment.find? stored name = some s → Does (· = w) (f s) R E) :
    Does (· = w) (Console.requireSegment stored name >>= f) R E := by
  refine bind (Q := fun s w' => Segment.find? stored name = some s ∧ w' = w) ?_ fun s =>
    ⟨fun s' hs' => (h s hs'.1).run s' hs'.2⟩
  unfold Console.requireSegment
  cases hf : Segment.find? stored name with
  | none => exact fail fun stop _ hw => hw ▸ hstop stop
  | some s => exact pure fun _ hw => ⟨rfl, hw⟩

end

/-- Storing segments stores them, or it leaves them unsaved. -/
theorem saveSegments [Limits] [Yaml.Writer] {given : Settings} {segments : List Segment} :
    Does P (Console.saveSegments given segments) (fun _ w' => ∃ w, P w ∧ Stored given segments w w')
      fun _ w' => ∃ w, P w ∧ Unsaved given segments w w' := by
  refine of_eq fun w hw => ?_
  unfold Console.saveSegments
  refine bind (Q := fun _ w' => ∃ tree,
    w.tree.makeDirectory given.segmentsPath.parent = .ok tree ∧ w' = { w with tree }) ?_ fun _ => ?_
  · refine work (.changeTree ?_ ?_)
    · rintro _ tree rfl hmade
      exact ⟨tree, hmade, rfl⟩
    · rintro w' fault rfl -
      exact ⟨w', hw, .inl (.refl w')⟩
  have hmade : ∀ w', (∃ tree, w.tree.makeDirectory given.segmentsPath.parent = .ok tree ∧ w' = { w with tree }) →
      ∃ w, P w ∧ Unsaved given segments w w' := by
    rintro _ ⟨tree, hmade, rfl⟩
    exact ⟨w, hw, .inl (.makeDirectory hmade)⟩
  refine bind (orUnwritten (Q := fun document w' => segmentsData segments = .ok document ∧ ∃ tree,
    w.tree.makeDirectory given.segmentsPath.parent = .ok tree ∧ w' = { w with tree })
    (fun _ _ hdata hw' => ⟨hdata, hw'⟩) fun _ w' _ => hmade w') fun document => of_and fun hdata => ?_
  have htext : segmentsText segments = Yaml.Writer.text document := by
    rw [segmentsText, hdata]
    rfl
  refine bind (Q := fun _ => Rewritten given ((Yaml.Writer.text document).toOption.getD "") w) ?_ fun _ => ?_
  · refine work (.changeTree ?_ ?_)
    · rintro _ tree' ⟨tree, hmade, rfl⟩ hwritten
      exact ⟨tree, tree', hmade, hwritten, rfl⟩
    · exact fun w' _ hw' _ => hmade w' hw'
  refine bind (orUnwritten (Q := fun _ w' => ∃ w, P w ∧ Stored given segments w w') ?_ ?_) fun _ =>
    pure fun _ hw' => hw'
  · intro text w' hok hrewritten
    rw [hok] at hrewritten
    exact ⟨w, hw, text, htext.trans hok, hrewritten⟩
  · intro fault w' herror hrewritten
    rw [herror] at hrewritten
    refine ⟨w, hw, .inr ⟨fun text hok => ?_, hrewritten⟩⟩
    cases (htext.trans herror).symm.trans hok

end Does

/-! ### The first steps of commands, where they succeed -/

section

variable {s : Session} {given : Settings} {c : Catalogue} {stored : List Segment} {found : Segment}

theorem Procedure.run_settings (h : s.workspace.given = .ok given) :
    Procedure.settings.run.run s = (.ok given, s) := by
  rw [Procedure.settings, Procedure.run_work, Work.settings_run, h]

theorem Procedure.run_entry (path : Path) (s : Session) :
    (Procedure.entry path).run.run s = (.ok (s.workspace.tree.entry path), s) := by
  rw [Procedure.entry, Procedure.run_work]
  rfl

variable [Terminal]

theorem run_catalogue [Wording] (h : s.workspace.catalogued given = .ok c) :
    (Console.catalogue given).run.run s = (.ok c, s) := by
  unfold Workspace.catalogued at h
  unfold Console.catalogue
  cases hpath : given.cataloguePath? with
  | none =>
    rw [hpath] at h
    cases h
    rfl
  | some path =>
    rw [hpath] at h
    dsimp only at h ⊢
    rw [Triple.run_bind, Procedure.run_entry]
    dsimp only
    rw [h]
    rfl

theorem run_segments [Wording] [Limits] (h : (s.workspace.loading given).1 = .ok stored) :
    (Console.segments given).run.run s =
      (.ok stored, { s with workspace := { s.workspace with ids := (s.workspace.loading given).2 } }) := by
  have hdrawn : (Work.drawing (readSegments s.workspace.now (s.workspace.tree.entry given.segmentsPath))).run.run
      s.workspace = (.ok (.ok stored), { s.workspace with ids := (s.workspace.loading given).2 }) := by
    rw [← h]
    rfl
  unfold Console.segments
  rw [Triple.run_bind, Procedure.run_entry]
  dsimp only
  rw [Triple.run_bind, Procedure.run_get]
  dsimp only
  rw [Triple.run_bind, Procedure.run_work, hdrawn]
  rfl

theorem run_requireSegment {name : String} (h : Segment.find? stored name = some found) (s : Session) :
    (Console.requireSegment stored name).run.run s = (.ok found, s) := by
  rw [Console.requireSegment, h]
  rfl

end

/-- How a run ends whose steps have a result. -/
def ending : Except Stop Unit × Session → Ending × Workspace
  | (.ok (), s) => (⟨0, s.printed, none⟩, s.workspace)
  | (.error (.exit code), s) => (⟨code, s.printed, none⟩, s.workspace)
  | (.error (.escape e), s) => (⟨1, s.printed, some e⟩, s.workspace)

variable [Terminal] [Wording] [Limits] [Yaml.Writer]

theorem Command.run_eq (command : Command) (w : Workspace) :
    command.run w = ending (command.action.run.run ⟨w, []⟩) := by
  unfold Command.run
  rcases command.action.run.run ⟨w, []⟩ with ⟨(code | e) | ⟨⟩, s⟩ <;> rfl

/-- A command ends with exit code 0 exactly if it was not stopped. -/
theorem Command.run_of_does {c : Command} {w : Workspace} {Q : Unit → Workspace → Prop}
    {E : Stop → Workspace → Prop} (h : Does (· = w) c.action Q E) :
    ((c.run w).1.code = 0 → Q () (c.run w).2) ∧
      ((c.run w).1.code ≠ 0 → ∃ stop, stop.escape? = (c.run w).1.escape ∧ E stop (c.run w).2) := by
  have h := h.run ⟨w, []⟩ rfl
  unfold Command.run
  rcases hr : c.action.run.run ⟨w, []⟩ with ⟨stop | _, s⟩ <;> rw [hr] at h
  · cases stop with
    | exit code => exact ⟨fun hcode => absurd hcode h.1, fun _ => ⟨_, rfl, h.2⟩⟩
    | escape e => exact ⟨fun hcode => absurd hcode Nat.one_ne_zero, fun _ => ⟨_, rfl, h.2⟩⟩
  · exact ⟨fun _ => h, fun hcode => absurd rfl hcode⟩

end Console

end Segmentation
