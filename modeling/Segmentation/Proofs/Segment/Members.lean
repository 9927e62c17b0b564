import Mathlib.Data.List.Induction
import Mathlib.Data.List.Nodup
import Segmentation.Catalogue.Contact
import Segmentation.Proofs.Outcome
import Segmentation.Proofs.Text
import Segmentation.Segment.Members

/-!
# Members that are added and removed

* `Segment.IsAddress`: what a list of addresses is reduced to before it is looked at.
* `Segment.newcomers`: the addresses that appear for the first time. `Segment.withMembers_eq`: adding appends them.
* `Segment.withMembers_append`, `Segment.withMembers_self`, `Segment.withoutMembers_append`,
  `Segment.withoutMembers_withMembers`: what is done in one go can be done in several, and twice is once.
* `Segment.addMembers_eq_ok`, `Segment.removeMembers_eq_ok`: what the two changes make of a segment.
* `Segment.Listed`: what the members of a segment are after any changes. `MemberEdit.apply_listed` is the step, and
  `Segment.Listed.run` the run.
* `Segment.memberEdits_lawful`: what changes come to, from a new segment and from any other static one.
-/

namespace Segmentation

open Calendar

namespace Segment

variable {members emails addresses more : List String} {email : String}

/-! ## Addresses -/

/-- A text that is not empty and has no blanks around it. -/
def IsAddress (m : String) : Prop :=
  m ≠ "" ∧ Text.IsTrimmed m

theorem mem_normalize : email ∈ normalize emails ↔ email ≠ "" ∧ ∃ x ∈ emails, Text.trim x = email := by
  simp [normalize, and_comm]

theorem isAddress_of_mem_normalize (h : email ∈ normalize emails) : IsAddress email := by
  obtain ⟨hne, x, -, rfl⟩ := mem_normalize.1 h
  exact ⟨hne, Text.isTrimmed_trim x⟩

theorem normalize_append (xs ys : List String) : normalize (xs ++ ys) = normalize xs ++ normalize ys := by
  simp [normalize]

/-! ## Adding -/

theorem mem_keys_addMember (k : String) :
    k ∈ (addMember members email).map Text.lower ↔ k ∈ members.map Text.lower ∨ k = Text.lower email := by
  unfold addMember
  split
  · rename_i hknown
    exact ⟨.inl, fun h => h.elim (fun hold => hold) fun heq => heq ▸ hknown⟩
  · simp

/-- Afterwards every address is listed in some spelling, and nobody else who was not listed before. -/
theorem mem_keys_foldl (k : String) :
    k ∈ (addresses.foldl addMember members).map Text.lower ↔
      k ∈ members.map Text.lower ∨ k ∈ addresses.map Text.lower := by
  induction addresses generalizing members with
  | nil => simp
  | cons a addresses ih =>
    rw [List.foldl_cons, ih, mem_keys_addMember, List.map_cons, List.mem_cons, or_assoc]

theorem nodup_keys_foldl (h : (members.map Text.lower).Nodup) :
    ((addresses.foldl addMember members).map Text.lower).Nodup := by
  induction addresses generalizing members with
  | nil => exact h
  | cons a addresses ih =>
    rw [List.foldl_cons]
    apply ih
    unfold addMember
    split
    · exact h
    · rename_i hnew
      rw [List.map_append, List.map_singleton]
      exact h.append (List.nodup_singleton _) (List.disjoint_singleton.2 hnew)

/-- The addresses that appear for the first time, in their order: neither a member nor an earlier one of them has the
same small form. -/
def newcomers (members addresses : List String) : List String :=
  (addresses.zipIdx.filter fun (a, i) =>
    decide (Text.lower a ∉ (members ++ addresses.take i).map Text.lower)).map Prod.fst

theorem newcomers_concat (members addresses : List String) (a : String) :
    newcomers members (addresses ++ [a]) =
      newcomers members addresses ++
        if Text.lower a ∈ (members ++ addresses).map Text.lower then [] else [a] := by
  unfold newcomers
  rw [List.zipIdx_append, List.filter_append, List.map_append]
  congr 1
  · -- What stands before the other addresses is the same as without the last one.
    refine congrArg _ (List.filter_congr fun (b, i) hb => ?_)
    have hlt : i < addresses.length := by simpa using List.snd_lt_of_mem_zipIdx hb
    dsimp only
    rw [List.take_append_of_le_length hlt.le]
  · rw [List.zipIdx_singleton, Nat.zero_add, List.filter_singleton]
    dsimp only
    rw [List.take_left]
    by_cases hknown : Text.lower a ∈ (members ++ addresses).map Text.lower
    · rw [if_pos hknown, decide_eq_false (not_not_intro hknown)]
      rfl
    · rw [if_neg hknown, decide_eq_true hknown]
      rfl

theorem foldl_addMember_eq (members addresses : List String) :
    addresses.foldl addMember members = members ++ newcomers members addresses := by
  induction addresses using List.reverseRecOn with
  | nil => simp [newcomers]
  | append_singleton addresses a ih =>
    have hkeys : Text.lower a ∈ (members ++ newcomers members addresses).map Text.lower ↔
        Text.lower a ∈ (members ++ addresses).map Text.lower := by
      rw [← ih, mem_keys_foldl, List.map_append, List.mem_append]
    rw [List.foldl_append, ih, newcomers_concat, List.foldl_cons, List.foldl_nil, addMember]
    split_ifs with hlisted hknown hknown
    · rw [List.append_nil]
    · exact absurd (hkeys.1 hlisted) hknown
    · exact absurd (hkeys.2 hknown) hlisted
    · rw [List.append_assoc]

/-- Adding keeps the members as they are and appends the addresses that appear for the first time. -/
theorem withMembers_eq (members emails : List String) :
    withMembers members emails = members ++ newcomers members (normalize emails) :=
  foldl_addMember_eq members (normalize emails)

theorem newcomers_sublist : (newcomers members addresses).Sublist addresses := by
  have hsublist := (List.filter_sublist (l := addresses.zipIdx)
    (p := fun (a, i) => decide (Text.lower a ∉ (members ++ addresses.take i).map Text.lower))).map Prod.fst
  rwa [List.zipIdx_map_fst] at hsublist

theorem notMem_keys_of_mem_newcomers (h : email ∈ newcomers members addresses) :
    Text.lower email ∉ members.map Text.lower := by
  obtain ⟨⟨a, i⟩, hfilter, rfl⟩ := List.mem_map.1 h
  have hnew := (List.mem_filter.1 hfilter).2
  rw [decide_eq_true_iff, List.map_append, List.mem_append, not_or] at hnew
  exact hnew.1

/-- Two batches one after the other are one batch. -/
theorem withMembers_append (members xs ys : List String) :
    withMembers members (xs ++ ys) = withMembers (withMembers members xs) ys := by
  rw [withMembers, normalize_append, List.foldl_append]
  rfl

/-- Addresses that are all listed in some spelling add nothing. -/
theorem foldl_addMember_of_known (h : ∀ a ∈ addresses, Text.lower a ∈ members.map Text.lower) :
    addresses.foldl addMember members = members := by
  induction addresses with
  | nil => rfl
  | cons a addresses ih =>
    obtain ⟨hfirst, hrest⟩ := List.forall_mem_cons.1 h
    rw [List.foldl_cons, addMember, if_pos hfirst, ih hrest]

theorem withMembers_self (members xs : List String) :
    withMembers (withMembers members xs) xs = withMembers members xs := by
  refine foldl_addMember_of_known fun a ha => ?_
  rw [withMembers, mem_keys_foldl]
  exact .inr (List.mem_map_of_mem ha)

/-! ## Removing -/

theorem mem_withoutMembers {m : String} :
    m ∈ withoutMembers members emails ↔ m ∈ members ∧ Text.lower m ∉ (normalize emails).map Text.lower := by
  simp [withoutMembers]

theorem withoutMembers_append (members xs ys : List String) :
    withoutMembers members (xs ++ ys) = withoutMembers (withoutMembers members xs) ys := by
  unfold withoutMembers
  dsimp only
  rw [List.filter_filter, normalize_append, List.map_append]
  refine List.filter_congr fun m _ => ?_
  simp only [List.mem_append, Bool.decide_or, Bool.not_or, Bool.and_comm]

theorem withoutMembers_comm (members xs ys : List String) :
    withoutMembers (withoutMembers members xs) ys = withoutMembers (withoutMembers members ys) xs := by
  unfold withoutMembers
  dsimp only
  rw [List.filter_filter, List.filter_filter]
  exact List.filter_congr fun m _ => Bool.and_comm _ _

/-- Removing takes out again what adding the same addresses has appended. -/
theorem withoutMembers_withMembers (members xs : List String) :
    withoutMembers (withMembers members xs) xs = withoutMembers members xs := by
  have hnone : withoutMembers (newcomers members (normalize xs)) xs = [] := by
    rw [List.eq_nil_iff_forall_not_mem]
    intro m hm
    obtain ⟨hnew, hkept⟩ := mem_withoutMembers.1 hm
    exact hkept (List.mem_map_of_mem (newcomers_sublist.mem hnew))
  calc withoutMembers (withMembers members xs) xs
      = withoutMembers members xs ++ withoutMembers (newcomers members (normalize xs)) xs := by
        rw [withMembers_eq]
        exact List.filter_append _ _
    _ = withoutMembers members xs := by rw [hnone, List.append_nil]

/-! ## Segments -/

variable {s t : Segment}

theorem addMembers_eq (hs : s.type = .static) (emails : List String) (now : DateTime) :
    s.addMembers emails now = .ok (s.setMembers (withMembers s.members emails) now) := by
  rw [addMembers, membership_eq_static hs]

theorem removeMembers_eq (hs : s.type = .static) (emails : List String) (now : DateTime) :
    s.removeMembers emails now = .ok (s.setMembers (withoutMembers s.members emails) now) := by
  rw [removeMembers, membership_eq_static hs]

theorem addMembers_eq_ok {now : DateTime} :
    s.addMembers emails now = .ok t ↔ s.type = .static ∧ s.setMembers (withMembers s.members emails) now = t := by
  cases hs : s.type with
  | static => simp [addMembers_eq hs]
  | dynamic => simp [addMembers, membership_eq_dynamic hs]

theorem removeMembers_eq_ok {now : DateTime} :
    s.removeMembers emails now = .ok t ↔
      s.type = .static ∧ s.setMembers (withoutMembers s.members emails) now = t := by
  cases hs : s.type with
  | static => simp [removeMembers_eq hs]
  | dynamic => simp [removeMembers, membership_eq_dynamic hs]

/-- The members are addresses, no two of them differ in case only, and their number is the stored one. -/
structure Listed (s : Segment) : Prop where
  static : s.type = .static
  addresses : ∀ m ∈ s.members, IsAddress m
  distinct : (s.members.map Text.lower).Nodup
  counted : s.contactCount = s.members.length

theorem listed_create {catalogue : Catalogue} {now : DateTime} {name description id groupId conditionId : String}
    (h : create catalogue now name description .static id groupId conditionId = .ok s) : s.Listed := by
  unfold create at h
  split at h
  · cases h
  · cases h
    exact ⟨rfl, fun m hm => absurd hm List.not_mem_nil, List.nodup_nil, rfl⟩

end Segment

/-- A change of the members of a segment, and when it is made. -/
inductive MemberEdit where
  | add (emails : List String) (now : DateTime)
  | remove (emails : List String) (now : DateTime)

/-- The changed segment. -/
def MemberEdit.apply (s : Segment) : MemberEdit → Except Segment.MemberError Segment
  | add emails now => s.addMembers emails now
  | remove emails now => s.removeMembers emails now

namespace Segment

variable {s : Segment}

theorem Listed.add (h : s.Listed) (emails : List String) (now : DateTime) :
    (s.setMembers (withMembers s.members emails) now).Listed where
  static := rfl
  addresses := by
    intro m hm
    have hmem : m ∈ withMembers s.members emails := hm
    rw [withMembers_eq, List.mem_append] at hmem
    rcases hmem with hold | hnew
    · exact h.addresses m hold
    · exact isAddress_of_mem_normalize (newcomers_sublist.mem hnew)
  distinct := nodup_keys_foldl h.distinct
  counted := rfl

theorem Listed.remove (h : s.Listed) (emails : List String) (now : DateTime) :
    (s.setMembers (withoutMembers s.members emails) now).Listed where
  static := rfl
  addresses := fun m hm => h.addresses m (List.mem_of_mem_filter hm)
  distinct := h.distinct.sublist (List.filter_sublist.map _)
  counted := rfl

/-- No change of the members of such a segment is refused, and the changed segment is one again. -/
theorem Listed.apply (h : s.Listed) (edit : MemberEdit) : ∃ t, edit.apply s = .ok t ∧ t.Listed := by
  cases edit with
  | add emails now => exact ⟨_, addMembers_eq h.static emails now, h.add emails now⟩
  | remove emails now => exact ⟨_, removeMembers_eq h.static emails now, h.remove emails now⟩

theorem Listed.run (h : s.Listed) (edits : List MemberEdit) :
    ∃ t, edits.foldlM MemberEdit.apply s = .ok t ∧ t.Listed := by
  induction edits generalizing s with
  | nil => exact ⟨s, rfl, h⟩
  | cons edit edits ih =>
    obtain ⟨t, ht, hlisted⟩ := h.apply edit
    obtain ⟨last, hlast, hlistedLast⟩ := ih hlisted
    refine ⟨last, ?_, hlistedLast⟩
    rw [List.foldlM_cons]
    exact bind_eq_ok.2 ⟨t, ht, hlast⟩

/-- No run of changes of a new static segment is refused, and it leaves addresses that differ in more than case, and
their number. In any static segment, whatever it lists: batches of addresses are added and removed in one go or one
after the other, removals in any order; adding twice is adding once; what was added is removed as if it had not been
added. Adding appends the addresses that appear for the first time, in their order, and removing leaves the members in
their order and spelling that have the small form of no address. -/
theorem memberEdits_lawful :
    (∀ (catalogue : Catalogue) (now : DateTime) (name description id groupId conditionId : String) (s : Segment),
      create catalogue now name description .static id groupId conditionId = .ok s →
        ∀ edits : List MemberEdit, ∃ t, edits.foldlM MemberEdit.apply s = .ok t ∧ t.Listed) ∧
    ∀ s : Segment, s.type = .static → ∀ (xs ys : List String) (now later : DateTime),
      (s.addMembers xs now >>= (·.addMembers ys later)) = s.addMembers (xs ++ ys) later ∧
      (s.addMembers xs now >>= (·.addMembers xs later)) = s.addMembers xs later ∧
      (s.removeMembers xs now >>= (·.removeMembers ys later)) = s.removeMembers (xs ++ ys) later ∧
      (s.removeMembers ys now >>= (·.removeMembers xs later)) = s.removeMembers (xs ++ ys) later ∧
      (s.addMembers xs now >>= (·.removeMembers xs later)) = s.removeMembers xs later ∧
      s.addMembers xs now = .ok (s.setMembers (s.members ++ newcomers s.members (normalize xs)) now) ∧
      s.removeMembers xs now =
        .ok (s.setMembers (s.members.filter fun m => ∀ x ∈ normalize xs, Text.lower x ≠ Text.lower m) now) := by
  refine ⟨fun catalogue now name description id groupId conditionId s h edits => (listed_create h).run edits,
    fun s hs xs ys now later => ?_⟩
  have hadd := addMembers_eq hs
  have hremove := removeMembers_eq hs
  -- The second change of the members replaces all that the first one has set.
  have hadd' : ∀ members emails, (s.setMembers members now).addMembers emails later =
      .ok (s.setMembers (withMembers members emails) later) := fun _ _ => rfl
  have hremove' : ∀ members emails, (s.setMembers members now).removeMembers emails later =
      .ok (s.setMembers (withoutMembers members emails) later) := fun _ _ => rfl
  refine ⟨?_, ?_, ?_, ?_, ?_, ?_, ?_⟩
  · rw [hadd, hadd, withMembers_append]
    exact hadd' _ _
  · rw [hadd, hadd]
    refine (hadd' _ _).trans ?_
    rw [withMembers_self]
  · rw [hremove, hremove, withoutMembers_append]
    exact hremove' _ _
  · rw [hremove, hremove, withoutMembers_append, withoutMembers_comm]
    exact hremove' _ _
  · rw [hadd, hremove]
    refine (hremove' _ _).trans ?_
    rw [withoutMembers_withMembers]
  · rw [hadd, withMembers_eq]
  · rw [hremove]
    have hkept : withoutMembers s.members xs =
        s.members.filter fun m => ∀ x ∈ normalize xs, Text.lower x ≠ Text.lower m := by
      refine List.filter_congr fun m _ => ?_
      rw [Bool.eq_iff_iff]
      simp
    rw [hkept]

/-- A new segment, and one that was stored with blanks around an address and with one address in two spellings: of four
texts only the address behind the blanks is new to it. -/
theorem memberEdits_lawful_spellings :
    let stored : Segment := ⟨"s", "Beta", "", .static ["A@x.org", " b@x.org", "a@x.org"], 7, default, default⟩
    let xs := [" B@x.org", "a@X.ORG", "b@x.org ", " "]
    (∃ s, create .contact default "Beta" "" .static "s" "g" "c" = .ok s ∧
      ∃ t, [MemberEdit.add xs default, .remove ["B@X.org"] default].foldlM MemberEdit.apply s = .ok t ∧ t.Listed) ∧
    stored.type = .static ∧
      stored.addMembers xs default =
        .ok (stored.setMembers ["A@x.org", " b@x.org", "a@x.org", "B@x.org"] default) ∧
      (stored.addMembers xs default >>= (·.removeMembers xs default)) = stored.removeMembers xs default := by
  intro stored xs
  have hnew : newcomers stored.members (normalize xs) = ["B@x.org"] := by decide +kernel
  obtain ⟨hruns, hlaws⟩ := memberEdits_lawful
  obtain ⟨-, -, -, -, hundone, hadd, -⟩ := hlaws stored rfl xs [] default default
  rw [hnew] at hadd
  exact ⟨⟨_, rfl, hruns .contact default "Beta" "" "s" "g" "c" _ rfl _⟩, rfl, hadd, hundone⟩

end Segment

end Segmentation
