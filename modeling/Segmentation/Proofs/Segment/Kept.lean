import Segmentation.Proofs.Editing.Built
import Segmentation.Proofs.Identifier
import Segmentation.Proofs.Segment.Members
import Segmentation.Proofs.Segment.RoundTrip
import Segmentation.Segment
import Segmentation.Segment.Resolution

/-!
# Segments that can be told apart, and that commands keep in order

* `Segment.Distinct`: identifiers and names that lead to single segments.
* `Segment.Distinct.find?_id`, `Segment.Distinct.find?_name`: a segment is found by its own identifier and by
  its own name.
* `Segment.Distinct.replace`, `Segment.Distinct.concat`: changing a segment and adding one keeps this.
* `Segment.Sound`: what a list of stored segments should be.
* `Segment.Keepable`: plain segments that can be stored.
* `Segment.Kept`: distinct segments that can be stored, with identifiers from a supply that has been used so far.
* `Segment.Kept.replace`, `Segment.Kept.concat`: changing a segment and adding one keeps this.
* `Segment.keepable_addMembers`, `Segment.keepable_removeMembers`, `Segment.Keepable.withContactCount`,
  `Segment.keepable_create`: what changes and makes segments gives some that can be stored.
-/

/-! ## Segments that can be told apart -/

namespace Segmentation.Segment

/-- No two segments have one identifier, or names that differ in case at most, and no name is the identifier of
another segment. -/
structure Distinct (stored : List Segment) : Prop where
  ids : (stored.map (·.id)).Nodup
  names : (stored.map fun s => Text.lower s.name).Nodup
  crossed : ∀ s ∈ stored, ∀ t ∈ stored, s.name = t.id → s = t

variable {stored : List Segment} {s found updated : Segment} {name : String}

/-- An element is found by a key that it shares with no other one. -/
theorem find?_key {α κ : Type} [DecidableEq κ] {key : α → κ} {xs : List α} (h : (xs.map key).Nodup) {a : α}
    (ha : a ∈ xs) : xs.find? (fun x => key x = key a) = some a := by
  induction xs with
  | nil => cases ha
  | cons x xs ih =>
    rw [List.map_cons, List.nodup_cons] at h
    rw [List.find?_cons]
    rcases List.mem_cons.1 ha with rfl | ha
    · simp
    · have hne : key x ≠ key a := fun heq => h.1 (heq ▸ List.mem_map_of_mem ha)
      simp only [decide_eq_false hne]
      exact ih h.2 ha

namespace Distinct

theorem find?_id (h : Distinct stored) (hs : s ∈ stored) : find? stored s.id = some s := by
  have hid : stored.find? (·.id = s.id) = some s := find?_key h.ids hs
  rw [find?, hid]
  rfl

/-- If the name is an identifier at all, it is that of the segment itself. -/
theorem find?_name (h : Distinct stored) (hs : s ∈ stored) : find? stored s.name = some s := by
  have hname : (stored.find? fun t => Text.lower t.name = Text.lower s.name) = some s := find?_key h.names hs
  rw [find?, hname]
  cases hid : stored.find? (·.id = s.name) with
  | none => rfl
  | some t =>
    have heq : s.name = t.id := (by simpa using List.find?_some hid : t.id = s.name).symm
    rw [h.crossed s hs t (List.mem_of_find?_eq_some hid) heq]
    rfl

/-- Changes that leave identifiers and names alone keep segments distinct. -/
theorem map (h : Distinct stored) {f : Segment → Segment} (hid : ∀ s ∈ stored, (f s).id = s.id)
    (hname : ∀ s ∈ stored, (f s).name = s.name) : Distinct (stored.map f) where
  ids := by
    have hmap : (stored.map f).map (·.id) = stored.map (·.id) := by
      rw [List.map_map]
      exact List.map_congr_left hid
    rw [hmap]
    exact h.ids
  names := by
    have hmap : (stored.map f).map (fun s => Text.lower s.name) = stored.map fun s => Text.lower s.name := by
      rw [List.map_map]
      exact List.map_congr_left fun s hs => congrArg Text.lower (hname s hs)
    rw [hmap]
    exact h.names
  crossed := by
    intro s' hs' t' ht' heq
    obtain ⟨s, hs, rfl⟩ := List.mem_map.1 hs'
    obtain ⟨t, ht, rfl⟩ := List.mem_map.1 ht'
    rw [hname s hs, hid t ht] at heq
    rw [h.crossed s hs t ht heq]

theorem eq_of_id (h : Distinct stored) (hs : s ∈ stored) (hfound : found ∈ stored) (heq : s.id = found.id) :
    s = found := by
  have hs' := find?_id h hs
  rw [heq, find?_id h hfound] at hs'
  exact (Option.some.inj hs').symm

theorem replace (h : Distinct stored) (hfound : found ∈ stored) (hid : updated.id = found.id)
    (hname : updated.name = found.name) : Distinct (replace stored updated) := by
  refine h.map (fun s hs => ?_) fun s hs => ?_
  · split
    · exact ‹s.id = updated.id›.symm
    · rfl
  · split
    · rw [hname, h.eq_of_id hs hfound (‹s.id = updated.id›.trans hid)]
    · rfl

theorem concat (h : Distinct stored) (hid : ∀ s ∈ stored, s.id ≠ updated.id)
    (hname : ∀ s ∈ stored, Text.lower s.name ≠ Text.lower updated.name)
    (hcrossed : ∀ s ∈ stored, s.name ≠ updated.id ∧ updated.name ≠ s.id) : Distinct (stored ++ [updated]) where
  ids := by
    rw [List.map_append, List.nodup_append]
    refine ⟨h.ids, by simp, ?_⟩
    simpa using hid
  names := by
    rw [List.map_append, List.nodup_append]
    refine ⟨h.names, by simp, ?_⟩
    simpa using hname
  crossed := by
    intro s hs t ht heq
    rw [List.mem_append, List.mem_singleton] at hs ht
    rcases hs with hs | rfl <;> rcases ht with ht | rfl
    · exact h.crossed s hs t ht heq
    · exact absurd heq (hcrossed s hs).1
    · exact absurd heq (hcrossed t ht).2
    · rfl

end Distinct

/-- A text that names no segment is no identifier and, in any case, no name. -/
theorem find?_eq_none : find? stored name = none ↔
    (∀ s ∈ stored, s.id ≠ name) ∧ ∀ s ∈ stored, Text.lower s.name ≠ Text.lower name := by
  simp [find?]

theorem mem_of_find? (h : find? stored name = some s) : s ∈ stored := by
  unfold find? at h
  cases hid : stored.find? (·.id = name) with
  | none =>
    rw [hid] at h
    exact List.mem_of_find?_eq_some h
  | some t =>
    rw [hid] at h
    cases h
    exact List.mem_of_find?_eq_some hid

/-- Every segment is found by its own identifier and by its own name, static segments have no rules, and dynamic
ones list no members. -/
structure Sound (stored : List Segment) : Prop where
  distinct : Distinct stored
  foundById : ∀ s ∈ stored, find? stored s.id = some s
  foundByName : ∀ s ∈ stored, find? stored s.name = some s
  static : ∀ s ∈ stored, s.type = .static → s.rules = none
  dynamic : ∀ s ∈ stored, s.type = .dynamic → s.members = []

theorem Distinct.sound (h : Distinct stored) : Sound stored where
  distinct := h
  foundById _ := h.find?_id
  foundByName _ := h.find?_name
  static s _ := by
    unfold Segment.type Segment.rules
    cases s.membership <;> simp
  dynamic s _ := by
    unfold Segment.type Segment.members
    cases s.membership <;> simp

end Segmentation.Segment

/-! ## Segments that are kept in order -/

namespace Segmentation

theorem Integer.HasText.of_le {m n : Nat} (hn : HasText n) (h : m ≤ n) : HasText m :=
  Nat.lt_of_le_of_lt h hn

theorem Operator.hasNoNextLine_name (o : Operator) : Text.HasNoNextLine o.name := by
  cases o <;> decide +kernel

namespace Segment

variable {s : Segment} {emails : List String}

theorem length_withMembers_le (members emails : List String) :
    (withMembers members emails).length ≤ members.length + emails.length := by
  have hnormal : (normalize emails).length ≤ emails.length :=
    (List.length_filter_le _ _).trans (List.length_map _).le
  have hnew : (newcomers members (normalize emails)).length ≤ (normalize emails).length :=
    newcomers_sublist.length_le
  rw [withMembers_eq, List.length_append]
  omega

/-- Every member was there before, or it is one of the addresses, trimmed. -/
theorem mem_withMembers {members : List String} {m : String} (h : m ∈ withMembers members emails) :
    m ∈ members ∨ ∃ x ∈ emails, Text.trim x = m := by
  rw [withMembers_eq, List.mem_append] at h
  exact h.imp_right fun hnew => (mem_normalize.1 (newcomers_sublist.mem hnew)).2

/-- A segment resolves to at most as many addresses as it has members or as there are contacts. -/
theorem total_resolve_le {contacts : List Value} {evaluator : Evaluator} {r : Resolution}
    (h : (s.resolve contacts evaluator).1 = .ok r) : r.total ≤ max s.members.length contacts.length := by
  unfold resolve at h
  cases hm : s.membership with
  | static members =>
    rw [hm] at h
    cases h
    simp [Resolution.total, Segment.members, hm]
  | dynamic rules =>
    rw [hm] at h
    cases rules with
    | none =>
      cases h
      simp [Resolution.total]
    | some rules =>
      obtain ⟨emails, hemails, rfl⟩ := map_eq_ok.1 h
      have hlen : emails.length ≤ contacts.length := by
        rw [length_of_mapM_eq_ok hemails]
        exact List.length_filter_le _ _
      exact ((List.length_filterMap_le _ _).trans hlen).trans (le_max_right _ _)

variable [Limits]

/-- The segment can be stored, and it is plain. -/
structure Keepable (s : Segment) : Prop where
  storable : s.Storable
  plain : s.IsPlain

/-- The segments are distinct and can be stored. Their identifiers were drawn from the supply before, none of
them is named like an identifier that it can still give, and none has more than `bound` members. -/
structure Kept (supply : IdSupply) (bound : Nat) (stored : List Segment) : Prop where
  distinct : Distinct stored
  keepable : ∀ s ∈ stored, s.Keepable
  drawn : ∀ s ∈ stored, ∃ k < supply.next, s.id = IdSupply.text k
  named : ∀ s ∈ stored, ∀ k, supply.next ≤ k → s.name ≠ IdSupply.text k
  members : ∀ s ∈ stored, s.members.length ≤ bound

variable {supply supply' : IdSupply} {bound bound' : Nat} {stored : List Segment} {found updated : Segment}
  {now : Calendar.DateTime}

namespace Kept

theorem nil : Kept supply bound [] :=
  ⟨⟨.nil, .nil, nofun⟩, nofun, nofun, nofun, nofun⟩

theorem mono (h : Kept supply bound stored) (hsupply : supply.next ≤ supply'.next) (hbound : bound ≤ bound') :
    Kept supply' bound' stored where
  distinct := h.distinct
  keepable := h.keepable
  drawn s hs := by
    obtain ⟨k, hk, hid⟩ := h.drawn s hs
    exact ⟨k, hk.trans_le hsupply, hid⟩
  named s hs k hk := h.named s hs k (hsupply.trans hk)
  members s hs := (h.members s hs).trans hbound

/-- A segment is replaced by a new one with its identifier and name. -/
theorem replace (h : Kept supply bound stored) (hfound : found ∈ stored) (hid : updated.id = found.id)
    (hname : updated.name = found.name) (hs : updated.Keepable) (hmembers : updated.members.length ≤ bound) :
    Kept supply bound (Segment.replace stored updated) := by
  have hcases : ∀ t ∈ Segment.replace stored updated, t = updated ∨ t ∈ stored := by
    intro t ht
    obtain ⟨s, hs, rfl⟩ := List.mem_map.1 ht
    split
    · exact .inl rfl
    · exact .inr hs
  refine ⟨h.distinct.replace hfound hid hname, fun t ht => ?_, fun t ht => ?_, fun t ht => ?_, fun t ht => ?_⟩ <;>
    rcases hcases t ht with rfl | ht
  · exact hs
  · exact h.keepable t ht
  · exact hid ▸ h.drawn found hfound
  · exact h.drawn t ht
  · exact hname ▸ h.named found hfound
  · exact h.named t ht
  · exact hmembers
  · exact h.members t ht

/-- A segment with a new name gets the next identifier; `supply'` is what is left after it. -/
theorem concat (h : Kept supply bound stored) (hid : s.id = IdSupply.text supply.next)
    (hsupply : supply.next < supply'.next) (hnew : find? stored s.name = none)
    (hname : ∀ k, supply.next ≤ k → s.name ≠ IdSupply.text k) (hs : s.Keepable)
    (hmembers : s.members.length ≤ bound) : Kept supply' bound (stored ++ [s]) := by
  obtain ⟨hnoId, hnoName⟩ := find?_eq_none.1 hnew
  have hfresh : ∀ t ∈ stored, t.id ≠ s.id := by
    intro t ht heq
    obtain ⟨k, hk, htext⟩ := h.drawn t ht
    rw [htext, hid] at heq
    exact hk.ne (IdSupply.text_injective heq)
  have hcrossed : ∀ t ∈ stored, t.name ≠ s.id ∧ s.name ≠ t.id := fun t ht =>
    ⟨hid ▸ h.named t ht _ le_rfl, (hnoId t ht).symm⟩
  have hold := h.mono hsupply.le (le_refl bound)
  have hcases : ∀ t ∈ stored ++ [s], t = s ∨ t ∈ stored := by
    intro t ht
    rw [List.mem_append, List.mem_singleton] at ht
    exact ht.symm
  refine ⟨h.distinct.concat hfresh hnoName hcrossed, fun t ht => ?_, fun t ht => ?_, fun t ht => ?_,
    fun t ht => ?_⟩ <;> rcases hcases t ht with rfl | ht
  · exact hs
  · exact h.keepable t ht
  · exact ⟨_, hsupply, hid⟩
  · exact hold.drawn t ht
  · exact fun k hk => hname k (hsupply.le.trans hk)
  · exact hold.named t ht
  · exact hmembers
  · exact h.members t ht

end Kept

/-! ## Segments that are changed -/

theorem Keepable.setMembers (h : s.Keepable) {members : List String}
    (hmembers : ∀ m ∈ members, Text.HasNoNextLine m) (hcount : Integer.HasText members.length)
    (hnow : now.IsToMinute) : (s.setMembers members now).Keepable where
  storable := ⟨h.storable.name, nofun, nofun, h.storable.createdAt, hnow⟩
  plain := ⟨h.plain.id, h.plain.name, h.plain.description, hmembers, nofun, nofun, nofun, hcount⟩

theorem Keepable.withContactCount (h : s.Keepable) {count : Nat} (hcount : Integer.HasText count)
    (hnow : now.IsToMinute) : (s.withContactCount count now).Keepable where
  storable := { h.storable with updatedAt := hnow }
  plain := { h.plain with contactCount := hcount }

/-- Adding addresses to a segment adds at most so many members. -/
theorem keepable_addMembers (h : s.Keepable) (hnow : now.IsToMinute)
    (hemails : ∀ x ∈ emails, Text.HasNoNextLine x)
    (hcount : Integer.HasText (s.members.length + emails.length : Nat))
    (hadd : s.addMembers emails now = .ok updated) :
    updated.Keepable ∧ updated.members.length ≤ s.members.length + emails.length := by
  obtain ⟨-, rfl⟩ := addMembers_eq_ok.1 hadd
  have hlen := length_withMembers_le s.members emails
  have hmembers : ∀ m ∈ withMembers s.members emails, Text.HasNoNextLine m := by
    intro m hm
    rcases mem_withMembers hm with hm | ⟨x, hx, rfl⟩
    · exact h.plain.members m hm
    · exact (hemails x hx).trim
  exact ⟨h.setMembers hmembers (hcount.of_le hlen) hnow, hlen⟩

theorem keepable_removeMembers (h : s.Keepable) (hnow : now.IsToMinute)
    (hcount : Integer.HasText s.members.length) (hremove : s.removeMembers emails now = .ok updated) :
    updated.Keepable ∧ updated.members.length ≤ s.members.length := by
  obtain ⟨-, rfl⟩ := removeMembers_eq_ok.1 hremove
  have hlen : (withoutMembers s.members emails).length ≤ s.members.length := List.length_filter_le _ _
  have hmembers : ∀ m ∈ withoutMembers s.members emails, Text.HasNoNextLine m :=
    fun m hm => h.plain.members m (List.mem_of_mem_filter hm)
  exact ⟨h.setMembers hmembers (hcount.of_le hlen) hnow, hlen⟩

theorem keepable_create {catalogue : Catalogue} {name description id groupId conditionId : String}
    {type : SegmentType} (hid : Text.HasNoNextLine id) (hgroupId : Text.HasNoNextLine groupId)
    (hconditionId : Text.HasNoNextLine conditionId) (hname : Text.HasNoNextLine name)
    (hdescription : Text.HasNoNextLine description) (hfield : Text.HasNoNextLine catalogue.firstField.key)
    (hnow : now.IsToMinute) (h : create catalogue now name description type id groupId conditionId = .ok s) :
    s.Keepable ∧ s.id = id ∧ s.name = name ∧ s.members = [] := by
  unfold create at h
  split at h
  · cases h
  · rename_i hnonempty
    cases h
    have hzero : Integer.HasText 0 := Integer.hasText_iff.2 (by decide)
    cases type with
    | static =>
      exact ⟨⟨⟨hnonempty, nofun, nofun, hnow, hnow⟩, hid, hname, hdescription, nofun, nofun, nofun, nofun, hzero⟩,
        rfl, rfl, rfl⟩
    | dynamic =>
      have hinitial {p : Condition → Prop} (hp : p (Condition.create catalogue conditionId)) :
          ∀ g ∈ some (Group.initial catalogue groupId conditionId), g.EachCondition p := by
        rintro _ ⟨⟩
        exact Group.eachCondition_create hp
      have hdepth : ∀ g ∈ some (Group.initial catalogue groupId conditionId), g.depth = 1 := by
        rintro _ ⟨⟩
        rfl
      have htexts : (Condition.create catalogue conditionId).EachText Text.HasNoNextLine :=
        ⟨hconditionId, hfield, Operator.hasNoNextLine_name _, List.not_mem_nil, trivial⟩
      refine ⟨⟨⟨hnonempty, hinitial (Condition.settled_create _ _), fun g hg => ?_, hnow, hnow⟩,
        hid, hname, hdescription, nofun, fun g hg => ⟨?_, hinitial htexts g hg⟩,
        hinitial ⟨⟨trivial, trivial⟩, trivial, trivial⟩, fun g hg => ?_, hzero⟩, rfl, rfl, rfl⟩
      · rw [hdepth g hg]
        exact ⟨Limits.written_pos, Limits.read_pos⟩
      · obtain rfl := Option.some.inj hg
        rintro node hnode
        obtain rfl := List.mem_singleton.1 hnode
        exact hgroupId
      · rw [hdepth g hg]
        decide

end Segment

end Segmentation
