import Segmentation.Proofs.Segment.Members
import Segmentation.Proofs.Text

/-!
# Members that equal an address

Two addresses are equal if they are without the blanks around them and in small letters.

* `Segment.isAddress_of_lower_eq`: what has the small form of an address is an address itself.
* `Segment.withoutMembers_eq_filter`: removing takes out the members that equal one of the addresses, except those that
  were stored with blanks around them or are empty.
* `Segment.changes_identify`: so it takes out all that equal one exactly if no such member is among them, and adding
  keeps all equal ones away exactly if such members are listed without blanks as well.
-/

namespace Segmentation

open Calendar

-- Only the characters at the ends are looked at, and not all that there are.
instance (s : String) : Decidable (Text.IsTrimmed s) :=
  @instDecidableAnd _ _ (Option.decidableForallMem _) (Option.decidableForallMem _)

namespace Segment

instance (m : String) : Decidable (IsAddress m) :=
  inferInstanceAs (Decidable (_ ∧ _))

/-- The text without the blanks around it and in small letters. -/
def identity (address : String) : String :=
  Text.lower (Text.trim address)

/-- The text equals one of the addresses. -/
def IsAmong (emails : List String) (m : String) : Prop :=
  ∃ e ∈ emails, identity e = identity m

instance (emails : List String) (m : String) : Decidable (IsAmong emails m) :=
  inferInstanceAs (Decidable (∃ e ∈ emails, _))

variable {members emails : List String} {m e : String}

theorem IsAddress.identity_eq (h : IsAddress m) : identity m = Text.lower m := by
  rw [identity, Text.trim_eq_self h.2]

theorem isAddress_trim (h : Text.trim m ≠ "") : IsAddress (Text.trim m) :=
  ⟨h, Text.isTrimmed_trim m⟩

/-- Small letters neither add blanks at the ends nor take them away. -/
theorem isAddress_of_lower_eq (he : IsAddress e) (h : Text.lower m = Text.lower e) : IsAddress m := by
  refine ⟨fun hm => he.1 ?_, ?_⟩
  · rw [← Text.lower_eq_empty, ← h, Text.lower_eq_empty]
    exact hm
  · rw [← Text.isTrimmed_lower, h, Text.isTrimmed_lower]
    exact he.2

/-- A member has the small form of one of the addresses exactly if it equals one and is an address as it stands. -/
theorem lower_mem_keys_iff :
    Text.lower m ∈ (normalize emails).map Text.lower ↔ IsAddress m ∧ IsAmong emails m := by
  rw [List.mem_map]
  constructor
  · rintro ⟨e, he, hlower⟩
    have hm : IsAddress m := isAddress_of_lower_eq (isAddress_of_mem_normalize he) hlower.symm
    obtain ⟨-, x, hx, rfl⟩ := mem_normalize.1 he
    exact ⟨hm, x, hx, hlower.trans hm.identity_eq.symm⟩
  · rintro ⟨hm, x, hx, hidentity⟩
    rw [hm.identity_eq] at hidentity
    refine ⟨Text.trim x, mem_normalize.2 ⟨fun hempty => hm.1 ?_, x, hx, rfl⟩, hidentity⟩
    rw [← Text.lower_eq_empty, ← hidentity, identity, hempty]
    exact Text.lower_eq_empty.2 rfl

theorem withoutMembers_eq_filter (members emails : List String) :
    withoutMembers members emails = members.filter fun m => ¬ (IsAddress m ∧ IsAmong emails m) := by
  refine List.filter_congr fun m _ => ?_
  simp only [lower_mem_keys_iff, decide_not]

/-- What stays are the members that equal none of the addresses, unless one equals one without being an address. -/
theorem filter_isAddress_iff :
    (members.filter fun m => ¬ (IsAddress m ∧ IsAmong emails m)) = (members.filter fun m => ¬ IsAmong emails m) ↔
      ∀ m ∈ members, IsAmong emails m → IsAddress m := by
  constructor
  · intro heq m hm hamong
    by_contra haddress
    have hstays : m ∈ members.filter fun m => ¬ (IsAddress m ∧ IsAmong emails m) :=
      List.mem_filter.2 ⟨hm, decide_eq_true fun h => haddress h.1⟩
    rw [heq] at hstays
    exact of_decide_eq_true (List.mem_filter.1 hstays).2 hamong
  · intro h
    refine List.filter_congr fun m hm => decide_eq_decide.2 (not_congr ?_)
    exact ⟨And.right, fun hamong => ⟨h m hm hamong, hamong⟩⟩

/-- An address that is appended equals no member, unless it equals one that is listed with blanks around it only. -/
theorem newcomers_isAmong_iff :
    (∀ a ∈ newcomers members (normalize emails), ¬ IsAmong members a) ↔
      ∀ m ∈ members, Text.trim m ≠ "" → IsAmong emails m →
        ∃ known ∈ members, IsAddress known ∧ identity known = identity m := by
  constructor
  · rintro hnew m hm hne ⟨x, hx, hidentity⟩
    have haddress : IsAddress (Text.trim x) := isAddress_of_lower_eq (isAddress_trim hne) hidentity
    have hmem : Text.trim x ∈ normalize emails := mem_normalize.2 ⟨haddress.1, x, hx, rfl⟩
    -- Afterwards the address is listed in some spelling, as a member or as one that was appended.
    have hlisted : Text.lower (Text.trim x) ∈ (withMembers members emails).map Text.lower :=
      (mem_keys_foldl _).2 (.inr (List.mem_map_of_mem hmem))
    rw [withMembers_eq] at hlisted
    obtain ⟨known, hknown, hlower⟩ := List.mem_map.1 hlisted
    have hknownAddress : IsAddress known := isAddress_of_lower_eq haddress hlower
    have hsame : identity known = identity m := by
      rw [hknownAddress.identity_eq, hlower]
      exact hidentity
    rcases List.mem_append.1 hknown with hold | hadded
    · exact ⟨known, hold, hknownAddress, hsame⟩
    · exact absurd ⟨m, hm, hsame.symm⟩ (hnew known hadded)
  · rintro hknown a ha ⟨m, hm, hidentity⟩
    have hmem : a ∈ normalize emails := newcomers_sublist.mem ha
    have haddress : IsAddress a := isAddress_of_mem_normalize hmem
    obtain ⟨-, x, hx, htrim⟩ := mem_normalize.1 hmem
    have hidentity_x : identity x = identity m := by
      rw [hidentity, haddress.identity_eq, identity, htrim]
    have hne : Text.trim m ≠ "" := by
      intro hempty
      rw [haddress.identity_eq, identity, hempty, Text.lower_eq_empty.2 rfl] at hidentity
      exact haddress.1 (Text.lower_eq_empty.1 hidentity.symm)
    obtain ⟨known, hold, hknownAddress, hsame⟩ := hknown m hm hne ⟨x, hx, hidentity_x⟩
    refine notMem_keys_of_mem_newcomers ha (List.mem_map.2 ⟨known, hold, ?_⟩)
    rw [← hknownAddress.identity_eq, hsame, hidentity, haddress.identity_eq]

variable {s : Segment}

/-- Removing addresses from a static segment, whatever it lists, leaves in their order the members that equal none of
them, and those that equal one but are empty or have blanks around them. So exactly the equal ones are gone if and only
if none of the latter is there. Adding appends addresses that equal no member if and only if every member that equals
one of the addresses, unless it is blank altogether, is listed without blanks around it as well. -/
theorem changes_identify (hs : s.type = .static) (emails : List String) (now : DateTime) :
    ∃ removed added appended, s.removeMembers emails now = .ok removed ∧ s.addMembers emails now = .ok added ∧
      removed.members = (s.members.filter fun m => ¬ (IsAddress m ∧ IsAmong emails m)) ∧
      (removed.members = (s.members.filter fun m => ¬ IsAmong emails m) ↔
        ∀ m ∈ s.members, IsAmong emails m → IsAddress m) ∧
      added.members = s.members ++ appended ∧
      ((∀ a ∈ appended, ¬ IsAmong s.members a) ↔
        ∀ m ∈ s.members, Text.trim m ≠ "" → IsAmong emails m →
          ∃ known ∈ s.members, IsAddress known ∧ identity known = identity m) := by
  have hremoved : withoutMembers s.members emails = s.members.filter fun m => ¬ (IsAddress m ∧ IsAmong emails m) :=
    withoutMembers_eq_filter s.members emails
  refine ⟨_, _, newcomers s.members (normalize emails), removeMembers_eq hs emails now, addMembers_eq hs emails now,
    hremoved, ?_, withMembers_eq s.members emails, newcomers_isAmong_iff⟩
  rw [← filter_isAddress_iff, ← hremoved]
  rfl

/-- A member with blanks around it does no harm as long as it equals none of the addresses. -/
theorem changes_identify_others :
    let s : Segment := ⟨"s", "Beta", "", .static ["A@x.org", " b@x.org", "c@x.org"], 3, default, default⟩
    let emails := ["a@X.org ", "d@x.org", " "]
    s.type = .static ∧ ∃ removed added, s.removeMembers emails default = .ok removed ∧
      s.addMembers emails default = .ok added ∧
      removed.members = (s.members.filter fun m => ¬ IsAmong emails m) ∧ removed.members = [" b@x.org", "c@x.org"] ∧
      ∃ appended, added.members = s.members ++ appended ∧ ∀ a ∈ appended, ¬ IsAmong s.members a := by
  intro s emails
  have haddresses : ∀ m ∈ s.members, IsAmong emails m → IsAddress m := by decide +kernel
  obtain ⟨removed, added, appended, hremove, hadd, hkept, hremoved, happended, hnew⟩ :=
    changes_identify (s := s) rfl emails default
  have hleft : (s.members.filter fun m => ¬ (IsAddress m ∧ IsAmong emails m)) = [" b@x.org", "c@x.org"] := by
    decide +kernel
  refine ⟨rfl, removed, added, hremove, hadd, hremoved.2 haddresses, hkept.trans hleft, appended, happended, ?_⟩
  exact hnew.2 fun m hm _ hamong => ⟨m, hm, haddresses m hm hamong, rfl⟩

/-- A member with a blank before it stays although the very same text is removed, and the address is added beside it. -/
theorem not_changes_identify_blank :
    let s : Segment := ⟨"s", "Beta", "", .static [" a@x.org"], 1, default, default⟩
    let emails := [" a@x.org"]
    s.removeMembers emails default = .ok (s.setMembers [" a@x.org"] default) ∧
      s.addMembers emails default = .ok (s.setMembers ([" a@x.org"] ++ ["a@x.org"]) default) ∧
      IsAmong emails " a@x.org" ∧ IsAmong s.members "a@x.org" := by
  intro s emails
  have hkept : withoutMembers s.members emails = [" a@x.org"] := by decide +kernel
  have hadded : withMembers s.members emails = [" a@x.org"] ++ ["a@x.org"] := by decide +kernel
  refine ⟨?_, ?_, by decide +kernel, by decide +kernel⟩
  · rw [removeMembers_eq rfl, hkept]
  · rw [addMembers_eq rfl, hadded]

end Segment

end Segmentation
