import Segmentation.Workspace

/-!
# Triples

What a computation that may fail does with a state. A triple says what holds of the result and the state
after a computation that succeeds, and of the failure and the state after one that does not; what was done
before a failure stays done.

* `Triple.bind`, `Triple.forM`, `Triple.forIn`: computations in steps.
* `Triple.drawing`, `Triple.changeTree`, `Triple.settings`: the steps of work in a workspace.
-/

namespace Segmentation

/-- From a state with `P` the computation goes to a result and a state with `Q`, or to a failure and a state
with `E`. -/
structure Triple {ε σ α : Type} (P : σ → Prop) (x : ExceptT ε (StateM σ) α) (Q : α → σ → Prop)
    (E : ε → σ → Prop) : Prop where
  run : ∀ s, P s → match x.run.run s with
    | (.ok a, s') => Q a s'
    | (.error e, s') => E e s'

namespace Triple

section

variable {ε σ α β : Type} {P P' : σ → Prop} {Q Q' : α → σ → Prop} {R : β → σ → Prop}
  {E E' : ε → σ → Prop}

theorem pure {a : α} (h : ∀ s, P s → Q a s) : Triple P (pure a) Q E := by
  refine ⟨fun s hs => ?_⟩
  exact h s hs

theorem throw {e : ε} (h : ∀ s, P s → E e s) : Triple P (throw e) Q E := by
  refine ⟨fun s hs => ?_⟩
  exact h s hs

theorem run_bind (x : ExceptT ε (StateM σ) α) (f : α → ExceptT ε (StateM σ) β) (s : σ) :
    (x >>= f).run.run s = match x.run.run s with
      | (.ok a, s') => (f a).run.run s'
      | (.error e, s') => (.error e, s') := by
  change (ExceptT.run x >>= ExceptT.bindCont f).run s = _
  rw [StateT.run_bind]
  change (match x.run.run s with | (r, s') => (ExceptT.bindCont f r).run s') = _
  rcases x.run.run s with ⟨r | a, s'⟩ <;> rfl

theorem bind {x : ExceptT ε (StateM σ) α} {f : α → ExceptT ε (StateM σ) β} (hx : Triple P x Q E)
    (hf : ∀ a, Triple (Q a) (f a) R E) : Triple P (x >>= f) R E := by
  refine ⟨fun s hs => ?_⟩
  have h := hx.run s hs
  rw [run_bind]
  rcases hr : x.run.run s with ⟨e | a, s'⟩ <;> rw [hr] at h
  · exact h
  · exact (hf a).run s' h

theorem mono {x : ExceptT ε (StateM σ) α} (h : Triple P x Q E) (hP : ∀ s, P' s → P s)
    (hQ : ∀ a s, Q a s → Q' a s) (hE : ∀ e s, E e s → E' e s) : Triple P' x Q' E' := by
  refine ⟨fun s hs => ?_⟩
  have h := h.run s (hP s hs)
  rcases hx : x.run.run s with ⟨e | a, s'⟩ <;> rw [hx] at h
  · exact hE e s' h
  · exact hQ a s' h

/-- What two triples say together. -/
theorem and {x : ExceptT ε (StateM σ) α} (h : Triple P x Q E) (h' : Triple P' x Q' E') :
    Triple (fun s => P s ∧ P' s) x (fun a s => Q a s ∧ Q' a s) fun e s => E e s ∧ E' e s := by
  refine ⟨fun s hs => ?_⟩
  have h := h.run s hs.1
  have h' := h'.run s hs.2
  rcases hx : x.run.run s with ⟨e | a, s'⟩ <;> rw [hx] at h h' <;> exact ⟨h, h'⟩

/-- What holds after a computation that succeeds. -/
theorem ok {x : ExceptT ε (StateM σ) α} (h : Triple P x Q E) {s s' : σ} {a : α} (hs : P s)
    (hrun : x.run.run s = (.ok a, s')) : Q a s' := by
  have h := h.run s hs
  rwa [hrun] at h

/-- What holds after a computation whether it succeeds or fails. -/
theorem state {R : σ → Prop} {x : ExceptT ε (StateM σ) α} (h : Triple P x (fun _ => R) fun _ => R) {s : σ}
    (hs : P s) : R (x.run.run s).2 := by
  have h := h.run s hs
  rcases hx : x.run.run s with ⟨e | a, s'⟩ <;> rw [hx] at h <;> exact h

theorem any (x : ExceptT ε (StateM σ) α) : Triple P x (fun _ _ => True) fun _ _ => True := by
  refine ⟨fun s _ => ?_⟩
  rcases x.run.run s with ⟨e | a, s'⟩ <;> trivial

/-- What holds of every single starting point holds of all. -/
theorem of_eq {x : ExceptT ε (StateM σ) α} (h : ∀ s, P s → Triple (· = s) x Q E) : Triple P x Q E :=
  ⟨fun s hs => (h s hs).run s rfl⟩

theorem get {Q : σ → σ → Prop} (h : ∀ s, P s → Q s s) :
    Triple P (get : ExceptT ε (StateM σ) σ) Q E := by
  refine ⟨fun s hs => ?_⟩
  exact h s hs

/-- A step that looks at the state goes on with it. -/
theorem get_bind {s : σ} {f : σ → ExceptT ε (StateM σ) β} (h : Triple (· = s) (f s) R E) :
    Triple (· = s) (MonadState.get >>= f) R E := by
  refine bind (Q := fun t t' => t = s ∧ t' = s) (get fun _ ht => ⟨ht, ht⟩) fun t => of_eq fun t' ht' => ?_
  obtain ⟨rfl, rfl⟩ := ht'
  exact h

theorem modify {f : σ → σ} {Q : PUnit → σ → Prop} (h : ∀ s, P s → Q ⟨⟩ (f s)) :
    Triple P (modify f : ExceptT ε (StateM σ) PUnit) Q E := by
  refine ⟨fun s hs => ?_⟩
  exact h s hs

theorem set {t : σ} {Q : PUnit → σ → Prop} (h : ∀ s, P s → Q ⟨⟩ t) :
    Triple P (set t : ExceptT ε (StateM σ) PUnit) Q E := by
  refine ⟨fun s hs => ?_⟩
  exact h s hs

/-- A step for each element of a list keeps what every step keeps. -/
theorem forM {xs : List α} {f : α → ExceptT ε (StateM σ) PUnit}
    (h : ∀ a ∈ xs, Triple P (f a) (fun _ => P) E) : Triple P (xs.forM f) (fun _ => P) E := by
  induction xs with
  | nil => exact pure fun _ hs => hs
  | cons a xs ih =>
    rw [List.forall_mem_cons] at h
    exact bind h.1 fun _ => ih h.2

theorem forIn {xs : List α} {f : α → ExceptT ε (StateM σ) PUnit}
    (h : ∀ a ∈ xs, Triple P (f a) (fun _ => P) E) :
    Triple P (do for a in xs do f a) (fun _ => P) E := by
  refine bind (Q := fun _ => P) ?_ fun _ => pure fun _ hs => hs
  induction xs with
  | nil => exact pure fun _ hs => hs
  | cons a xs ih =>
    rw [List.forall_mem_cons] at h
    rw [List.forIn_cons]
    refine bind (Q := fun step s => step = .yield ⟨⟩ ∧ P s)
      (bind h.1 fun _ => pure fun _ hs => ⟨rfl, hs⟩) fun step => of_eq fun s hs => ?_
    obtain ⟨rfl, hs⟩ := hs
    exact (ih h.2).mono (fun _ hs' => hs' ▸ hs) (fun _ _ => id) fun _ _ => id

end

section

open Storage

variable {α : Type} {P : Workspace → Prop} {Q : α → Workspace → Prop} {R : Unit → Workspace → Prop}
  {E : Escape → Workspace → Prop}

theorem drawing {draw : StateM IdSupply α}
    (h : ∀ w, P w → Q (draw.run w.ids).1 { w with ids := (draw.run w.ids).2 }) :
    Triple P (Work.drawing draw) Q E := by
  refine ⟨fun w hw => ?_⟩
  exact h w hw

/-- A step that draws one identifier goes on with the next one of the supply. -/
theorem draw_bind {w : Workspace} {f : String → Work α}
    (h : Triple (· = { w with ids := ⟨w.ids.next + 1⟩ }) (f (IdSupply.text w.ids.next)) Q E) :
    Triple (· = w) (Work.drawing IdSupply.draw >>= f) Q E := by
  refine bind (drawing (Q := fun id w' => id = IdSupply.text w.ids.next ∧
    w' = { w with ids := ⟨w.ids.next + 1⟩ }) ?_) fun id => of_eq fun w' hw' => ?_
  · rintro _ rfl
    exact ⟨rfl, rfl⟩
  · obtain ⟨rfl, rfl⟩ := hw'
    exact h

theorem changeTree {change : FileTree → Except FileFault FileTree}
    (hok : ∀ w tree, P w → change w.tree = .ok tree → R () { w with tree })
    (herror : ∀ w fault, P w → change w.tree = .error fault → E (.file fault) w) :
    Triple P (Work.changeTree change) R E := by
  refine bind (Q := fun w w' => P w ∧ w' = w) (get fun w hw => ⟨hw, rfl⟩) fun w => ?_
  cases hc : change w.tree with
  | error fault =>
    refine throw ?_
    rintro _ ⟨hw, rfl⟩
    exact herror _ fault hw hc
  | ok tree => exact set fun _ hw => hok w tree hw.1 hc

theorem changeJournal {change : Journal → Journal}
    (h : ∀ w, P w → R () { w with journal := change w.journal }) :
    Triple P (Work.changeJournal change) R E :=
  modify h

theorem entry {p : Path} {Q : Entry → Workspace → Prop} (h : ∀ w, P w → Q (w.tree.entry p) w) :
    Triple P (Work.entry p) Q E := by
  refine ⟨fun w hw => ?_⟩
  exact h w hw

theorem text? {p : Path} (h : ∀ fault w, P w → E (.storage fault) w) :
    Triple P (Work.text? p) (fun _ => P) E := by
  refine bind (entry (Q := fun _ => P) fun _ hw => hw) fun found => ?_
  split
  · exact pure fun _ hw => hw
  · exact throw fun w hw => h _ w hw
  · exact throw fun w hw => h _ w hw
  · exact pure fun _ hw => hw

theorem ofChecked {x : Checked α} (hok : ∀ a w, x = .ok a → P w → Q a w)
    (herror : ∀ ps w, x = .error ps → P w → E (.problems ps) w) : Triple P (Work.ofChecked x) Q E := by
  cases x with
  | error ps => exact throw fun w hw => herror ps w rfl hw
  | ok a => exact pure fun w hw => hok a w rfl hw

end

end Triple

open Storage in
/-- Files are changed if they can be, and otherwise nothing is. -/
theorem Work.changeTree_run (change : FileTree → Except FileFault FileTree) (w : Workspace) :
    (Work.changeTree change).run.run w = match change w.tree with
      | .ok tree => (.ok (), { w with tree })
      | .error fault => (.error (.file fault), w) := by
  unfold Work.changeTree
  rw [Triple.run_bind]
  change ((match change w.tree with
    | .ok tree => set { w with tree }
    | .error fault => throw (.file fault) : Work Unit)).run.run w = _
  cases change w.tree <;> rfl

/-- The settings that a workspace gives to a command. -/
def Workspace.given (w : Workspace) : Except Escape Settings :=
  ((Work.settings []).run.run w).1

/-- Settings are read and nothing is changed. -/
theorem Work.settings_run (w : Workspace) : (Work.settings []).run.run w = (w.given, w) := by
  have h : Triple (· = w) (Work.settings []) (fun _ w' => w' = w) fun _ w' => w' = w := by
    refine .bind (Q := fun _ w' => w' = w) (.get fun _ hw => hw) fun w₀ => ?_
    refine .bind (.text? fun _ _ hw => hw) fun userFile => .bind (.text? fun _ _ hw => hw) fun projectFile => ?_
    exact .ofChecked (fun _ _ _ hw => hw) fun _ _ _ hw => hw
  have h := h.run w rfl
  refine Prod.ext rfl ?_
  rcases hr : (Work.settings []).run.run w with ⟨e | s, w'⟩ <;> rw [hr] at h <;> exact h

/-- The text that an entry gives to work, if it is a file. -/
def Storage.Entry.given : Storage.Entry → Except Escape (Option String)
  | .file text => .ok (some text)
  | .undecodable reason => .error (.storage (.undecodable reason))
  | .closed .forbidden => .error (.storage (.file .forbidden))
  | _ => .ok none

/-- What a file gives depends on what stands at its path alone, and nothing is changed. -/
theorem Work.text?_run (p : Path) (w : Workspace) : (Work.text? p).run.run w = ((w.tree.entry p).given, w) := by
  have hentry : (Work.entry p).run.run w = (.ok (w.tree.entry p), w) := rfl
  unfold Work.text?
  rw [Triple.run_bind, hentry]
  cases w.tree.entry p with
  | closed fault => cases fault <;> rfl
  | _ => rfl

/-- Settings depend on files, variables and directories, but not on the journal. -/
theorem Workspace.given_withJournal (w : Workspace) (j : Journal) : { w with journal := j }.given = w.given := by
  have hget : ∀ v : Workspace, (get : Work Workspace).run.run v = (.ok v, v) := fun _ => rfl
  unfold Workspace.given Work.settings
  simp only [Triple.run_bind, hget, Work.text?_run]
  cases (w.tree.entry (Settings.userFile w.home)).given with
  | error e => rfl
  | ok userFile =>
    dsimp only
    cases (w.tree.entry Settings.projectFile).given with
    | error e => rfl
    | ok projectFile =>
      dsimp only
      cases Settings.check _ <;> rfl

theorem Triple.settings {P : Workspace → Prop} :
    Triple P (Work.settings []) (fun s w => P w ∧ w.given = .ok s) fun _ => P := by
  refine ⟨fun w hw => ?_⟩
  rw [Work.settings_run]
  cases hg : w.given with
  | error e => exact hw
  | ok s => exact ⟨hw, hg⟩

end Segmentation
