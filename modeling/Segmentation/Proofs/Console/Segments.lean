import Segmentation.Proofs.Console.Session

/-!
# What the commands about segments and about the configuration do

* `Does.changeMembers`, `Does.evaluate`, `Does.create`: what a command stores that ends well, and what is left by one
  that is stopped.
* `Does.list`, `Does.display`, `Does.validate`: commands that only look.
* `Does.init`: setting up the configuration writes the example segments where there is nothing yet.
* `Does.version`, `Does.fields`, `Does.operators`: the other commands only look.
-/

namespace Segmentation.Console

open Storage

section

variable [Limits]

/-- What a command about a segment starts from in `w`: the settings, the stored segments, and the one that
`name` finds. -/
structure Opens (w : Workspace) (name : String) (given : Settings) (stored : List Segment)
    (found : Segment) : Prop where
  settings : w.given = .ok given
  loaded : (w.loading given).1 = .ok stored
  addressed : Segment.find? stored name = some found

/-- A command that only looks draws identifiers at most. -/
def Looked (w w' : Workspace) : Prop :=
  ∃ ids, w.Draws ids ∧ w' = { w with ids }

theorem Looked.self (w : Workspace) : Looked w w :=
  ⟨_, .none, rfl⟩

theorem Looked.drawn {w : Workspace} {given : Settings} (hgiven : w.given = .ok given) (n : Nat) :
    Looked w { w with ids := ⟨(w.loading given).2.next + n⟩ } :=
  ⟨_, .loaded hgiven n, rfl⟩

/-- How far the log files of a command on segments come from `w` on: they are set up by the settings, opened for
the segment, and written to. A list of contacts that is read in between has `C`. -/
structure LogsKeep (given : Settings) (w : Workspace) (set opened written : Workspace → Prop)
    (C : List Value → Prop) : Prop where
  setUp : Triple (· = w) (Work.setUpJournal (some given)) (fun _ => set) fun _ => written
  segmentLogger : ∀ name, Triple set (Work.segmentLogger name) (fun _ => opened) fun _ => written
  log : ∀ logger level message,
    Triple written (Work.log logger level message) (fun _ => written) fun _ => written
  weaken : ∀ w', opened w' → written w'
  contacts : ∀ w' path among, opened w' → Storage.readContacts path (w'.tree.entry path) = .ok among → C among

/-- How a workspace is related to the one in which segments were to be stored by some settings. -/
abbrev Outcome :=
  Settings → List Segment → Workspace → Workspace → Prop

/-- The members of the segment `name` were to be changed, and the segments to be stored with the changed one. -/
def Changed (outcome : Outcome) (w : Workspace) (name : String)
    (change : Segment → Calendar.DateTime → Except Segment.MemberError Segment) (w' : Workspace) : Prop :=
  ∃ given stored found updated, Opens w name given stored found ∧ change found w.now = .ok updated ∧
    outcome given (Segment.replace stored updated) { w with ids := (w.loading given).2 } w'

/-- Resolving a segment has written to log files. The segments were to be stored with the number that the segment
resolved to among contacts, if this was asked for. -/
def Resolved (outcome : Outcome) (w : Workspace) (name : String) (save : Bool) (written : Workspace → Prop)
    (C : List Value → Prop) (w' : Workspace) : Prop :=
  ∃ given stored found w₁, Opens w name given stored found ∧ written w₁ ∧
    if save then ∃ w₀ among evaluator r, written w₀ ∧ C among ∧
      (found.resolve among evaluator).1 = .ok r ∧
        outcome given (Segment.replace stored (found.withContactCount r.total w₀.now)) w₁ w'
    else w' = w₁

/-- A segment was created whose name none of those has that are stored, and it was to be stored at their end. -/
def Created (outcome : Outcome) (w : Workspace) (name description : String) (type : SegmentType)
    (w' : Workspace) : Prop :=
  ∃ given stored c s, w.given = .ok given ∧ w.catalogued given = .ok c ∧ (w.loading given).1 = .ok stored ∧
    Segment.find? stored name = none ∧
      Segment.create c w.now name description type (IdSupply.text (w.loading given).2.next)
        (IdSupply.text ((w.loading given).2.next + 1)) (IdSupply.text ((w.loading given).2.next + 2)) = .ok s ∧
        outcome given (stored ++ [s]) { w with ids := ⟨(w.loading given).2.next + 3⟩ } w'

end

/-- What setting up the configuration leaves: no file has changed, or the example was written where there was
nothing. -/
def SetUp (w w' : Workspace) : Prop :=
  SameFiles w w' ∨ ∃ w₁ path tree, SameFiles w w₁ ∧ (w₁.tree.entry path).exists? = false ∧
    w₁.tree.write path exampleSegments = .ok tree ∧ w' = { w₁ with tree }

namespace Does

variable {w : Workspace} {name : String}

section

variable [Terminal] [Wording] [Limits] [Yaml.Writer]

/-- Changing members stores the segments with the changed one. -/
theorem changeMembers {change : Segment → Calendar.DateTime → Except Segment.MemberError Segment} :
    Does (· = w) (Console.changeMembers name change) (fun _ => Changed Stored w name change)
      fun _ w' => Looked w w' ∨ Changed Unsaved w name change w' := by
  unfold Console.changeMembers
  refine settings_bind (fun _ => .inl (.self w)) fun given hgiven => ?_
  have hlooked := Looked.drawn hgiven 0
  refine segments_bind (fun _ => .inl hlooked) fun stored hloaded => ?_
  refine requireSegment_bind (fun _ => .inl hlooked) fun found hfound => ?_
  refine get_bind fun s hs => ?_
  rw [hs]
  cases hc : change found w.now with
  | error e => exact fail fun _ _ hw => hw ▸ .inl hlooked
  | ok updated =>
    refine bind (saveSegments.mono (fun _ hw => hw) (fun _ _ hw => hw) ?_) fun _ => pure ?_
    · rintro _ w' ⟨_, rfl, hw'⟩
      exact .inr ⟨given, stored, found, updated, ⟨hgiven, hloaded, hfound⟩, hc, hw'⟩
    · rintro w' ⟨_, rfl, hw'⟩
      exact ⟨given, stored, found, updated, ⟨hgiven, hloaded, hfound⟩, hc, hw'⟩

/-- Adding and removing members say what they have done once it is stored. -/
theorem changeMembers_say {change : Segment → Calendar.DateTime → Except Segment.MemberError Segment}
    (line : Segment × Segment → String) :
    Does (· = w) (do
        let changed ← Console.changeMembers name change
        Procedure.say (line changed))
      (fun _ => Changed Stored w name change)
      fun stop w' => Looked w w' ∨ Changed Unsaved w name change w' ∨
        stop.IsUndrawn ∧ Changed Stored w name change w' := by
  refine bind (changeMembers.mono (fun _ hw => hw) (fun _ _ hw => hw) fun _ _ hw => hw.imp_right .inl) fun _ => ?_
  exact say fun p _ hw => .inr (.inr ⟨Stop.isUndrawn p, hw⟩)

section

variable {given : Settings} {set opened written : Workspace → Prop} {C : List Value → Prop}

omit [Limits] [Yaml.Writer] in
theorem contacts [Limits] {logger : String} {path : Path} (h : LogsKeep given w set opened written C) :
    Does opened (Console.contacts logger path) (fun among w' => C among ∧ written w') fun _ => written := by
  unfold Console.contacts
  refine bind (entry (Q := fun found w' => found = w'.tree.entry path ∧ opened w') fun _ hw => ⟨rfl, hw⟩)
    fun found => of_eq fun w₁ hw₁ => ?_
  obtain ⟨rfl, hw₁⟩ := hw₁
  cases hread : Storage.readContacts path (w₁.tree.entry path) with
  | ok among => exact pure fun _ hw => hw ▸ ⟨h.contacts w₁ path among hw₁ hread, h.weaken w₁ hw₁⟩
  | error fault =>
    refine mono (P := written) ?_ (fun _ hw => hw ▸ h.weaken w₁ hw₁) (fun _ _ hw => hw) fun _ _ hw => hw
    dsimp only
    split
    · exact bind (work (h.log _ _ _)) fun _ => fail fun _ _ hw => hw
    · exact throw Nat.one_ne_zero fun _ hw => hw

/-- Once its log was set up, resolving a segment has stopped: log files were written to, or the segments could not be
stored, or they were stored and this could not be said. -/
def EndsEarly (w : Workspace) (name : String) (save : Bool) (written : Workspace → Prop) (C : List Value → Prop)
    (stop : Stop) (w' : Workspace) : Prop :=
  written w' ∨ Resolved Unsaved w name save written C w' ∨ stop.IsUndrawn ∧ Resolved Stored w name save written C w'

omit [Wording] in
/-- The last step stores the segments with the new count if this is asked for. -/
theorem saveCount {stored : List Segment} {found : Segment} {c : Catalogue} {among : List Value} {r : Resolution}
    (hopens : Opens w name given stored found) {s : Session} (hnow : written s.workspace)
    (hamong : C among) (hr : (found.resolve among ⟨c, .system, s.workspace.now⟩).1 = .ok r) (save : Bool) :
    Does written (if save then do
        Console.saveSegments given (Segment.replace stored (found.withContactCount r.total s.workspace.now))
        Procedure.say (Text.Markup.styled "green" "Contact count saved")
      else Pure.pure ())
      (fun _ => Resolved Stored w name save written C) (EndsEarly w name save written C) := by
  cases save with
  | true =>
    refine bind (Q := fun _ => Resolved Stored w name true written C)
      (saveSegments.mono (fun _ hw => hw) ?_ ?_) fun _ => say fun p _ hw => .inr (.inr ⟨Stop.isUndrawn p, hw⟩)
    · rintro _ w' ⟨w₁, hw, hstored⟩
      exact ⟨given, stored, found, w₁, hopens, hw, s.workspace, among, _, r, hnow, hamong, hr, hstored⟩
    · rintro _ w' ⟨w₁, hw, hunsaved⟩
      exact .inr (.inl ⟨given, stored, found, w₁, hopens, hw, s.workspace, among, _, r, hnow, hamong, hr, hunsaved⟩)
  | false => exact pure fun w' hw => ⟨given, stored, found, w', hopens, hw, rfl⟩

/-- Resolving a segment stores the segments with its new count if this is asked for. Before that, it does
nothing but log. -/
theorem evaluate {contactsPath : Option Path} {limit : Int} {save : Bool}
    (hlogs : ∀ given, w.given = .ok given →
      LogsKeep given { w with ids := (w.loading given).2 } set opened written C) :
    Does (· = w) (Console.evaluate name contactsPath limit save) (fun _ => Resolved Stored w name save written C)
      fun stop w' => Looked w w' ∨ EndsEarly w name save written C stop w' := by
  unfold Console.evaluate
  refine settings_bind (fun _ => .inl (.self w)) fun given hgiven => ?_
  have hlooked := Looked.drawn hgiven 0
  refine catalogue_bind (fun _ => .inl (.self w)) fun c _ => ?_
  refine segments_bind (fun _ => .inl hlooked) fun stored hloaded => ?_
  refine requireSegment_bind (fun _ => .inl hlooked) fun found hfound => ?_
  have hopens : Opens w name given stored found := ⟨hgiven, hloaded, hfound⟩
  have hlogs := hlogs given hgiven
  -- Until the segments are to be stored, a stop leaves log files that were written to.
  refine mono (P := (· = { w with ids := (w.loading given).2 })) (Q := fun _ => Resolved Stored w name save written C)
    (E := EndsEarly w name save written C) ?_ (fun _ hw => hw) (fun _ _ hw => hw) fun _ _ => .inr
  have hend : ∀ (stop : Stop) w₁, written w₁ → EndsEarly w name save written C stop w₁ := fun _ _ => .inl
  refine bind ((work (E := fun _ => written) hlogs.setUp).mono (fun _ hw => hw) (fun _ _ hw => hw) hend) fun _ => ?_
  refine bind ((work (E := fun _ => written) (hlogs.segmentLogger _)).mono (fun _ hw => hw) (fun _ _ hw => hw) hend)
    fun logger => ?_
  refine bind ((contacts hlogs).mono (fun _ hw => hw) (fun _ _ hw => hw) hend) fun among => of_and fun hamong => ?_
  refine bind (get (Q := fun s w' => written s.workspace ∧ written w') fun _ hw => ⟨hw, hw⟩) fun s =>
    of_and fun hnow => ?_
  refine bind (orFailure (Q := fun r w' =>
    (found.resolve among ⟨c, .system, s.workspace.now⟩).1 = .ok r ∧ written w')
      (fun _ _ hr hw => ⟨hr, hw⟩) fun _ => hend _) fun r => of_and fun hr => ?_
  have hlog : ∀ level message, Does written (Procedure.work (Work.log logger level message)) (fun _ => written)
      (EndsEarly w name save written C) := fun level message =>
    (work (E := fun _ => written) (hlogs.log _ level message)).mono (fun _ hw => hw) (fun _ _ hw => hw) hend
  refine bind (hlog _ _) fun _ => ?_
  refine bind (forM fun error _ => bind (hlog _ _) fun _ => say fun _ => hend _) fun _ => ?_
  refine bind (print (hend _)) fun _ => ?_
  -- The lines about e-mails that are not shown come before the last step.
  have hsave := saveCount hopens hnow hamong hr save
  cases announcedRest? r.emails limit with
  | some rest => exact bind (say fun _ => hend _) fun _ => say_if (fun _ => hend _) hsave
  | none => exact say_if (fun _ => hend _) hsave

end

/-- Creating a segment draws three identifiers and stores the segments with the new one. -/
theorem create {description : String} {type : SegmentType} :
    Does (· = w) (Console.create name description type) (fun _ => Created Stored w name description type)
      fun stop w' => Looked w w' ∨ Created Unsaved w name description type w' ∨
        stop.IsUndrawn ∧ Created Stored w name description type w' := by
  unfold Console.create
  refine settings_bind (fun _ => .inl (.self w)) fun given hgiven => ?_
  refine catalogue_bind (fun _ => .inl (.self w)) fun c hc => ?_
  refine segments_bind (fun _ => .inl (.drawn hgiven 0)) fun stored hloaded => ?_
  cases hfound : Segment.find? stored name with
  | some s =>
    refine bind (Q := fun _ _ => False) ?_ fun _ => ⟨fun _ h => h.elim⟩
    exact fail fun _ _ hw => hw ▸ .inl (.drawn hgiven 0)
  | none =>
    refine get_bind fun s hs => ?_
    rw [hs]
    refine bind (Q := fun s w' => Segment.create c w.now name description type
      (IdSupply.text (w.loading given).2.next) (IdSupply.text ((w.loading given).2.next + 1))
        (IdSupply.text ((w.loading given).2.next + 2)) = .ok s ∧
          w' = { w with ids := ⟨(w.loading given).2.next + 3⟩ }) (work ?_) fun s => of_and fun hs => ?_
    · refine .draw_bind (.draw_bind (.draw_bind (.ofChecked ?_ ?_)))
      · rintro s _ hs rfl
        exact ⟨hs, rfl⟩
      · rintro _ _ - rfl
        exact .inl (.drawn hgiven 3)
    · refine bind (Q := fun _ => Created Stored w name description type) (saveSegments.mono (fun _ hw => hw) ?_ ?_)
        fun _ => say fun p _ hw => .inr (.inr ⟨Stop.isUndrawn p, hw⟩)
      · rintro _ w' ⟨_, rfl, hw'⟩
        exact ⟨given, stored, c, s, hgiven, hc, hloaded, hfound, hs, hw'⟩
      · rintro _ w' ⟨_, rfl, hw'⟩
        exact .inr (.inl ⟨given, stored, c, s, hgiven, hc, hloaded, hfound, hs, hw'⟩)

end

/-! ### Commands that only look -/

section

variable [Terminal] [Wording] [Limits]

theorem list : Does (· = w) Console.list (fun _ => Looked w) fun _ => Looked w := by
  unfold Console.list
  refine settings_bind (fun _ => .self w) fun given hgiven => ?_
  have hlooked := Looked.drawn hgiven 0
  refine segments_bind (fun _ => hlooked) fun stored _ => ?_
  refine mono (P := Looked w) ?_ (fun _ hw => hw ▸ hlooked) (fun _ _ hw => hw) fun _ _ hw => hw
  split
  · exact bind (say fun _ _ hw => hw) fun _ => say fun _ _ hw => hw
  · exact print fun _ hw => hw

theorem display : Does (· = w) (Console.display name) (fun _ => Looked w) fun _ => Looked w := by
  unfold Console.display
  refine settings_bind (fun _ => .self w) fun given hgiven => ?_
  have hlooked := Looked.drawn hgiven 0
  refine catalogue_bind (fun _ => .self w) fun c _ => ?_
  refine segments_bind (fun _ => hlooked) fun stored _ => ?_
  refine requireSegment_bind (fun _ => hlooked) fun s _ => ?_
  refine mono (P := Looked w) ?_ (fun _ hw => hw ▸ hlooked) (fun _ _ hw => hw) fun _ _ hw => hw
  refine bind (say fun _ _ hw => hw) fun _ => bind (say fun _ _ hw => hw) fun _ =>
    bind (say fun _ _ hw => hw) fun _ => bind (say fun _ _ hw => hw) fun _ => ?_
  split
  · exact forM fun _ _ => say fun _ _ hw => hw
  · exact say fun _ _ hw => hw
  · exact bind (orFailure (Q := fun _ => Looked w) (fun _ _ _ hw => hw) fun _ _ hw => hw) fun _ =>
      print fun _ hw => hw

theorem validate {chosen : Option String} :
    Does (· = w) (Console.validate chosen) (fun _ => Looked w) fun _ => Looked w := by
  unfold Console.validate
  refine settings_bind (fun _ => .self w) fun given hgiven => ?_
  have hlooked := Looked.drawn hgiven 0
  refine catalogue_bind (fun _ => .self w) fun c _ => ?_
  refine segments_bind (fun _ => hlooked) fun stored _ => ?_
  -- What follows is the same for all segments and for a single one.
  have hcheck (lines : List String) (failed : Bool) : Does (Looked w)
      (do
        lines.forM Procedure.say
        if failed then MonadExcept.throw (Stop.exit 1))
      (fun _ => Looked w) fun _ => Looked w := by
    refine bind (forM fun _ _ => say fun _ _ hw => hw) fun _ => ?_
    split
    · exact throw Nat.one_ne_zero fun _ hw => hw
    · exact pure fun _ hw => hw
  cases chosen with
  | none => exact bind (pure (Q := fun _ => Looked w) fun _ hw => hw ▸ hlooked) fun _ => hcheck _ _
  | some name =>
    dsimp only
    split
    · exact bind (pure (Q := fun _ => Looked w) fun _ hw => hw ▸ hlooked) fun _ => hcheck _ _
    · refine requireSegment_bind (fun _ => hlooked) fun s _ => ?_
      exact bind (pure (Q := fun _ => Looked w) fun _ hw => hw ▸ hlooked) fun _ => hcheck _ _

theorem fields : Does (· = w) Console.fields (fun _ => Looked w) fun _ => Looked w := by
  unfold Console.fields
  refine settings_bind (fun _ => .self w) fun given _ => catalogue_bind (fun _ => .self w) fun c _ => ?_
  exact (print fun _ hw => hw).mono (fun _ hw => hw ▸ .self w) (fun _ _ hw => hw) fun _ _ hw => hw

theorem operators {type : Option FieldType} :
    Does (· = w) (Console.operators type) (fun _ => Looked w) fun _ => Looked w := by
  unfold Console.operators
  refine settings_bind (fun _ => .self w) fun given _ => catalogue_bind (fun _ => .self w) fun c _ => ?_
  exact (print fun _ hw => hw).mono (fun _ hw => hw ▸ .self w) (fun _ _ hw => hw) fun _ _ hw => hw

omit [Wording] in
theorem version : Does (· = w) Console.version (fun _ => Looked w) fun _ => Looked w :=
  (say fun _ _ hw => hw).mono (fun _ hw => hw ▸ .self w) (fun _ _ hw => hw) fun _ _ hw => hw

end

/-! ### Setting up the configuration -/

theorem init [Terminal] {configDir : Option Path} : Does (· = w) (Console.init configDir) (fun _ => SetUp w)
    fun stop w' => SameFiles w w' ∨ stop.IsUndrawn ∧ SetUp w w' := by
  unfold Console.init
  refine settings_bind (fun _ => .inl (.refl w)) fun given _ => ?_
  refine bind (Q := fun _ => SameFiles w) (work (.changeTree ?_ ?_)) fun _ => ?_
  · rintro _ tree rfl hmade
    exact .makeDirectory hmade
  · rintro w' _ rfl -
    exact .inl (.refl w')
  refine bind (entry (Q := fun found w' => found = w'.tree.entry _ ∧ SameFiles w w') fun _ hw => ⟨rfl, hw⟩)
    fun found => of_eq fun w₁ hw₁ => ?_
  obtain ⟨rfl, hsame⟩ := hw₁
  have hlast : ∀ markup, Does (SetUp w) (Procedure.say markup) (fun _ => SetUp w)
      fun stop w' => SameFiles w w' ∨ stop.IsUndrawn ∧ SetUp w w' := fun markup =>
    say fun p _ hw => .inr ⟨Stop.isUndrawn p, hw⟩
  have hend (markup : String) : Does (· = w₁) (Procedure.say markup) (fun _ => SetUp w)
      fun stop w' => SameFiles w w' ∨ stop.IsUndrawn ∧ SetUp w w' :=
    (hlast markup).mono (fun _ hw => hw ▸ .inl hsame) (fun _ _ hw => hw) fun _ _ hw => hw
  dsimp only
  by_cases hlong : w₁.tree.entry (Settings.segmentsPath { given with configDir := configDir.getD given.configDir }) =
      .closed .nameTooLong
  · rw [if_pos hlong]
    exact bind (Q := fun _ _ => False) (throw Nat.one_ne_zero fun _ hw => hw ▸ .inl hsame) fun _ =>
      ⟨fun _ h => h.elim⟩
  rw [if_neg hlong]
  cases hthere : (w₁.tree.entry (Settings.segmentsPath
    { given with configDir := configDir.getD given.configDir })).exists? with
  | true => exact hend _
  | false =>
    refine bind (Q := fun _ => SetUp w) (work (.changeTree ?_ ?_)) fun _ => bind (hlast _) fun _ => hlast _
    · rintro _ tree rfl hwritten
      exact .inr ⟨_, _, tree, hsame, hthere, hwritten, rfl⟩
    · rintro _ _ rfl -
      exact .inl hsame

end Does

end Segmentation.Console
