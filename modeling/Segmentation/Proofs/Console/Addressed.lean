import Segmentation.Proofs.Console.Segments
import Segmentation.Proofs.Segment.Members

/-!
# Commands that change one segment

Adding and removing members and saving a count address one segment. They store the loaded list with the new
segment in the place of every entry that has the identifier of the addressed one.

* `Segment.Refreshes`, `Segment.ChangesOnly`: what such a command should change.
* `Command.run_replaces`: what it stores, and that it changes nothing else exactly if no other entry has the
  identifier of the addressed one.
* `run_twins`: two entries with one identifier, where a segment is lost.
-/

namespace Segmentation

namespace Segment

/-- `t` differs from `s` at most in its members, their number and the time of the last change. -/
structure Refreshes (s t : Segment) : Prop where
  id : t.id = s.id
  name : t.name = s.name
  description : t.description = s.description
  type : t.type = s.type
  rules : t.rules = s.rules
  createdAt : t.createdAt = s.createdAt

/-- The lists agree in all places but the one of the segment that `name` finds, which is refreshed. -/
structure ChangesOnly (name : String) (stored saved : List Segment) : Prop where
  length : saved.length = stored.length
  others : ∀ i, findIndex? stored name ≠ some i → saved[i]? = stored[i]?
  addressed : ∀ i s t, findIndex? stored name = some i → stored[i]? = some s → saved[i]? = some t →
    s.Refreshes t

theorem refreshes_setMembers {s : Segment} (h : s.type = .static) (members : List String)
    (now : Calendar.DateTime) : s.Refreshes (s.setMembers members now) where
  id := rfl
  name := rfl
  description := rfl
  type := h.symm
  rules := by rw [rules, rules, membership_eq_static h]; rfl
  createdAt := rfl

theorem refreshes_of_addMembers {s t : Segment} {emails : List String} {now : Calendar.DateTime}
    (h : s.addMembers emails now = .ok t) : s.Refreshes t := by
  obtain ⟨hs, rfl⟩ := addMembers_eq_ok.1 h
  exact refreshes_setMembers hs _ _

theorem refreshes_of_removeMembers {s t : Segment} {emails : List String} {now : Calendar.DateTime}
    (h : s.removeMembers emails now = .ok t) : s.Refreshes t := by
  obtain ⟨hs, rfl⟩ := removeMembers_eq_ok.1 h
  exact refreshes_setMembers hs _ _

theorem refreshes_withContactCount (s : Segment) (count : Nat) (now : Calendar.DateTime) :
    s.Refreshes (s.withContactCount count now) :=
  ⟨rfl, rfl, rfl, rfl, rfl, rfl⟩

theorem find?_eq_getElem?_findIdx? {α : Type} (xs : List α) (p : α → Bool) :
    xs.find? p = (xs.findIdx? p).bind (xs[·]?) := by
  induction xs with
  | nil => rfl
  | cons x xs ih =>
    rw [List.find?_cons, List.findIdx?_cons]
    cases hp : p x with
    | true => simp
    | false =>
      simp only [ih, Bool.false_eq_true, if_false]
      cases xs.findIdx? p <;> rfl

/-- The segment that a text names stands at the place that it names. -/
theorem exists_findIndex? {segments : List Segment} {name : String} {s : Segment}
    (h : find? segments name = some s) :
    ∃ i, findIndex? segments name = some i ∧ segments[i]? = some s := by
  rw [find?, find?_eq_getElem?_findIdx?, find?_eq_getElem?_findIdx?] at h
  rw [findIndex?]
  cases hi : segments.findIdx? (·.id = name) with
  | none =>
    rw [hi] at h
    exact Option.bind_eq_some_iff.1 h
  | some i =>
    obtain ⟨hlt, -⟩ := List.findIdx?_eq_some_iff_getElem.1 hi
    rw [hi] at h
    refine ⟨i, rfl, ?_⟩
    rw [← h]
    simp [List.getElem?_eq_getElem hlt]

theorem replace_getElem? (stored : List Segment) (updated : Segment) (i : Nat) :
    (replace stored updated)[i]? = stored[i]?.map fun s => if s.id = updated.id then updated else s := by
  simp [replace]

/-- Replacing the addressed segment changes nothing else exactly if every other entry with its identifier
is the new segment already. -/
theorem changesOnly_replace {stored : List Segment} {name : String} {i : Nat} {found updated : Segment}
    (hi : findIndex? stored name = some i) (hfound : stored[i]? = some found)
    (h : found.Refreshes updated) :
    ChangesOnly name stored (replace stored updated) ↔
      ∀ j s, j ≠ i → stored[j]? = some s → s.id = found.id → s = updated := by
  constructor
  · intro hc j s hj hs hid
    have hsame := hc.others j (by simpa [hi] using hj.symm)
    rw [replace_getElem?, hs, Option.map_some, if_pos (hid.trans h.id.symm)] at hsame
    exact (Option.some.inj hsame).symm
  · intro hothers
    refine ⟨by simp [replace], fun j hj => ?_, fun j s t hj hs ht => ?_⟩
    · have hj : j ≠ i := fun hji => hj (hji ▸ hi)
      rw [replace_getElem?]
      cases hs : stored[j]? with
      | none => rfl
      | some s =>
        rw [Option.map_some]
        split_ifs with hid
        · rw [hothers j s hj hs (hid.trans h.id)]
        · rfl
    · obtain rfl : i = j := Option.some.inj (hi.symm.trans hj)
      obtain rfl : found = s := Option.some.inj (hfound.symm.trans hs)
      rw [replace_getElem?, hs, Option.map_some, if_pos h.id.symm] at ht
      cases ht
      exact h

end Segment

namespace Console

open Storage

/-- The segment that the command changes in the file of segments. -/
def Command.addressed? : Command → Option String
  | addMembers name _ => some name
  | removeMembers name _ => some name
  | evaluate name _ _ true => some name
  | _ => none

section

variable [Limits] [Yaml.Writer]

/-- A command that changes the segment `name` went from `w` to `w'`: in the loaded list, `updated` replaced
every entry with the identifier of the segment at the place `i`, and the outcome was stored. -/
structure Replaces (w w' : Workspace) (name : String) (stored : List Segment) (i : Nat)
    (found updated : Segment) : Prop where
  stores : ∃ given text, w.given = .ok given ∧ (w.loading given).1 = .ok stored ∧
    segmentsText (Segment.replace stored updated) = .ok text ∧ w'.tree.entry given.segmentsPath = .file text
  addressed : Segment.findIndex? stored name = some i
  there : stored[i]? = some found
  refreshes : found.Refreshes updated

theorem Opens.replaces {w w₁ w' : Workspace} {name : String} {given : Settings} {stored : List Segment}
    {found updated : Segment} (h : Opens w name given stored found) (hr : found.Refreshes updated)
    (hs : Stored given (Segment.replace stored updated) w₁ w') :
    ∃ stored i found updated, Replaces w w' name stored i found updated := by
  obtain ⟨i, hi, hfound⟩ := Segment.exists_findIndex? h.addressed
  obtain ⟨text, htext, hwritten⟩ := hs
  exact ⟨stored, i, found, updated, ⟨given, text, h.settings, h.loaded, htext, hwritten.entry⟩, hi, hfound, hr⟩

theorem Changed.replaces {w w' : Workspace} {name : String}
    {change : Segment → Calendar.DateTime → Except Segment.MemberError Segment}
    (hchange : ∀ s now t, change s now = .ok t → s.Refreshes t) (h : Changed Stored w name change w') :
    ∃ stored i found updated, Replaces w w' name stored i found updated := by
  obtain ⟨given, stored, found, updated, hopens, hupdated, hstored⟩ := h
  exact hopens.replaces (hchange _ _ _ hupdated) hstored

variable [Terminal] [Wording]

theorem Does.replaces {c : Command} {name : String} (hc : c.addressed? = some name) (w : Workspace) :
    Does (· = w) c.action
      (fun _ w' => ∃ stored i found updated, Replaces w w' name stored i found updated) fun _ _ => True := by
  unfold Command.addressed? at hc
  split at hc <;> cases hc
  · exact (changeMembers_say _).mono (fun _ hw => hw)
      (fun _ _ hw => hw.replaces fun _ _ _ => Segment.refreshes_of_addMembers) fun _ _ _ => trivial
  · exact (changeMembers_say _).mono (fun _ hw => hw)
      (fun _ _ hw => hw.replaces fun _ _ _ => Segment.refreshes_of_removeMembers) fun _ _ _ => trivial
  · have hlogs (given : Settings) (w : Workspace) :
        LogsKeep given w (fun _ => True) (fun _ => True) (fun _ => True) fun _ => True :=
      ⟨.any _, fun _ => .any _, fun _ _ _ => .any _, fun _ _ => trivial, fun _ _ _ _ _ => trivial⟩
    refine (evaluate fun given _ => hlogs given _).mono (fun _ hw => hw) ?_ fun _ _ _ => trivial
    rintro _ w' ⟨given, stored, found, w₁, hopens, -, w₀, among, evaluator, r, -, -, -, hstored⟩
    exact hopens.replaces (Segment.refreshes_withContactCount _ _ _) hstored

/-- A command that changes a segment and ends well has replaced every entry that has the identifier of the
addressed one. It has changed nothing else, and the addressed one at most in its members, their number and
the time of the change, exactly if all other entries with that identifier are left as they were. -/
theorem Command.run_replaces {c : Command} {name : String} (hc : c.addressed? = some name) {w : Workspace}
    (hcode : (c.run w).1.code = 0) :
    ∃ (stored : List Segment) (i : Nat) (found updated : Segment),
      Replaces w (c.run w).2 name stored i found updated ∧
      (Segment.replace stored updated).length = stored.length ∧
      (∀ (j : Nat) (s : Segment), stored[j]? = some s →
        (Segment.replace stored updated)[j]? = some (if s.id = found.id then updated else s)) ∧
      (Segment.ChangesOnly name stored (Segment.replace stored updated) ↔
        ∀ (j : Nat) (s : Segment), j ≠ i → stored[j]? = some s → s.id = found.id → s = updated) := by
  obtain ⟨stored, i, found, updated, h⟩ := (run_of_does (Does.replaces hc w)).1 hcode
  refine ⟨stored, i, found, updated, h, by simp [Segment.replace], fun j s hs => ?_,
    Segment.changesOnly_replace h.addressed h.there h.refreshes⟩
  rw [Segment.replace_getElem?, hs, Option.map_some, h.refreshes.id]

end

/-- A workspace with a file of two segments that share an identifier. -/
def twins : Workspace where
  home := ⟨"/", []⟩
  environment := [("AUDIENCE_BUILDER_CONFIG_DIR", "/")]
  tree := ⟨⟨"/", []⟩, [(⟨"/", ["segments.yaml"]⟩,
    "\x7bsegments: [\x7bid: s, name: A\x7d, \x7bid: s, name: B, type: static\x7d]\x7d")], [], []⟩
  journal := .empty
  now := default
  ids := ⟨0⟩

/-- The command that adds an address to the second one. -/
def addToSecondTwin : Command := .addMembers "B" ["x@y.z"]

theorem code_twins : (addToSecondTwin.run twins).1.code = 0 := by decide +kernel

/-- The identifiers and names of the segments that a workspace stores. -/
def Workspace.heads (w : Workspace) : List (String × String) :=
  match w.given with
  | .ok given =>
    match (w.loading given).1 with
    | .ok stored => stored.map fun s => (s.id, s.name)
    | .error _ => []
  | .error _ => []

theorem heads_twins : Workspace.heads twins = [("s", "A"), ("s", "B")] := by decide +kernel

/-- The command ends well, so it has replaced every entry with the identifier of the second segment. -/
theorem Command.run_replaces_twins :
    addToSecondTwin.addressed? = some "B" ∧ (addToSecondTwin.run twins).1.code = 0 ∧
      ∃ (stored : List Segment) (i : Nat) (found updated : Segment),
        Replaces twins (addToSecondTwin.run twins).2 "B" stored i found updated := by
  obtain ⟨stored, i, found, updated, h, -⟩ :=
    Command.run_replaces (c := addToSecondTwin) rfl code_twins
  exact ⟨rfl, code_twins, stored, i, found, updated, h⟩

/-- The first of the two segments is lost although the second one is addressed. -/
theorem Command.run_twins :
    (addToSecondTwin.run twins).1.code = 0 ∧
      ∃ (stored : List Segment) (i : Nat) (found updated : Segment),
        Replaces twins (addToSecondTwin.run twins).2 "B" stored i found updated ∧
          ¬Segment.ChangesOnly "B" stored (Segment.replace stored updated) := by
  obtain ⟨stored, i, found, updated, h⟩ := (run_of_does (Does.replaces (c := addToSecondTwin) rfl twins)).1
    code_twins
  refine ⟨code_twins, stored, i, found, updated, h, fun honly => ?_⟩
  obtain ⟨given, _, hgiven, hloaded, -⟩ := h.stores
  have hheads := heads_twins
  simp only [Workspace.heads, hgiven, hloaded, List.map_eq_cons_iff, List.map_eq_nil_iff,
    Prod.mk.injEq] at hheads
  obtain ⟨a, _, rfl, ⟨haid, haname⟩, b, _, rfl, ⟨hbid, hbname⟩, rfl⟩ := hheads
  have hplace : Segment.findIndex? [a, b] "B" = some 1 := by
    have hlower : Text.lower "A" ≠ Text.lower "B" := by decide +kernel
    simp [Segment.findIndex?, List.findIdx?_cons, haid, haname, hbid, hbname, hlower]
  obtain rfl : 1 = i := Option.some.inj (hplace.symm.trans h.addressed)
  obtain rfl : b = found := Option.some.inj h.there
  -- The first segment carries the same identifier, so it would have to be the new one.
  have hlost := (Segment.changesOnly_replace h.addressed h.there h.refreshes).1 honly 0 a (by decide) rfl
    (haid.trans hbid.symm)
  have hname : "A" = "B" := haname.symm.trans ((congrArg Segment.name hlost).trans
    (h.refreshes.name.trans hbname))
  exact absurd hname (by decide)

end Console

end Segmentation
