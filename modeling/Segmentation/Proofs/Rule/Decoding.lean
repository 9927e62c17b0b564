import Segmentation.Proofs.Rule.Grammar

/-!
# What decoding accepts

* `Value.GivenAs`: data given as JSON text, as bytes, or as a mapping.
* `Value.WithinLimits`: what is given is within the limits of reading it.
* `Value.IsJsonWith.listsShort`: the lists of data whose integers all have a text are short.
* `Group.nests_toValue_encode`: the data of a tree nests as deep as the tree.
* `Group.decode_iff_isTree`: decoding accepts exactly the data that stands for a tree and is given within the limits,
  and otherwise tells about each malformed node.
-/

namespace Segmentation

open Value

/-! ## Nodes and their places -/

namespace Value

/-- The names of the entries of a group. -/
def groupKeys : List String :=
  ["id", "operator", "conditions", "groups"]

/-- There is room for everything in front of the end of the path. -/
def Reaches (room : Option Nat) (path : List String) : Prop :=
  ∀ n ∈ room, path.length ≤ 2 * n

theorem ConditionAt.badAt {v c : Value} {path : List String} (h : v.ConditionAt path c) {room : Option Nat}
    (hroom : Reaches room path) {place : List String} (hbad : Condition.BadAt c place) :
    Group.BadAt room v (path ++ place) := by
  obtain ⟨hgroup, hitems, hc⟩ := h
  rename_i i above
  have hlength : (above ++ ["conditions", toString i]).length = above.length + 2 := List.length_append
  rw [List.append_assoc]
  refine Group.badAt_of_groupAt hgroup (fun n hn => ?_) ?_
  · have := hroom n hn
    omega
  · obtain ⟨inside, hinside⟩ := Group.exists_roomInside?_eq_some.2 fun left hleft => by
      obtain ⟨n, hn, rfl⟩ := Option.map_eq_some_iff.1 hleft
      have := hroom n hn
      change 0 < n - above.length / 2
      omega
    exact .condition hinside hitems hc hbad

/-- Data that is not like a group is bad at its own place or in one of its own entries. -/
theorem exists_badAt_of_not_isGroup {g : Value} (hg : ¬ g.IsGroup) (room : Option Nat) :
    Group.BadAt room g [] ∨ ∃ key ∈ groupKeys, Group.BadAt room g [key] := by
  by_contra hnone
  push Not at hnone
  obtain ⟨hkind, hkeys⟩ := hnone
  obtain ⟨inside, hinside⟩ := Option.ne_none_iff_exists'.1 fun h => hkind (.deep h)
  cases g with
  | mapping es =>
    refine hg ⟨es, rfl, ?_, ?_, ?_, ?_⟩
    · exact not_not.1 fun hnot => hkeys "id" (by simp [groupKeys]) (.id hinside hnot)
    · exact not_not.1 fun hnot => hkeys "operator" (by simp [groupKeys]) (.operator hinside hnot)
    · exact not_not.1 fun hnot => hkeys "conditions" (by simp [groupKeys]) (.conditions hinside hnot)
    · exact not_not.1 fun hnot => hkeys "groups" (by simp [groupKeys]) (.groups hinside hnot)
  | _ => exact hkind (.kind (by simp))

/-! ## How data is given -/

/-- Data that is given as JSON text, in bytes of such text, or as a mapping of plain data. -/
inductive GivenAs : Value → Value → Prop where
  | text {s : String} {j : Json} (h : Json.read .free s = .ok j) : GivenAs j.toValue (.text s)
  | bytes {bs : List UInt8} {s : String} {j : Json} (hs : Schema.text (.bytes bs) = .ok s)
      (h : Json.read .free s = .ok j) : GivenAs j.toValue (.bytes bs)
  | data {es : List (Value × Value)} (h : (mapping es).IsJson) : GivenAs (mapping es) (mapping es)

theorem GivenAs.isJson {v input : Value} (h : v.GivenAs input) : v.IsJson := by
  cases h with
  | text h => exact Json.isJson_of_read h
  | bytes _ h => exact Json.isJson_of_read h
  | data h => exact h

theorem IsJsonWith.groupAt {p : Int → Prop} {v g : Value} {path : List String} (hv : v.IsJsonWith p)
    (h : v.GroupAt path g) : g.IsJsonWith p := by
  induction h with
  | here => exact hv
  | within hitems hg _ ih =>
    exact ih (allJson_iff.1 (IsJsonWith.valueUnder? hv hitems) _ (List.mem_of_getElem? hg))

/-- Where all integers have a text, all lists are short. -/
theorem IsJsonWith.listsShort {v : Value} (hv : v.IsJsonWith Integer.HasText) : v.ListsShort := by
  rintro _ es ⟨hgroup, hitems, hc⟩
  have hes : (mapping es).IsJsonWith Integer.HasText :=
    allJson_iff.1 (IsJsonWith.valueUnder? (hv.groupAt hgroup) hitems) _ (List.mem_of_getElem? hc)
  have hshort : ∀ key, IfPresent es key IsShortList := fun key v hfound => by
    have hv := IsJsonWith.valueUnder? hes hfound
    cases v with
    | collection kind items =>
      cases kind with
      | list => exact hv
      | _ => exact hv.elim
    | _ => trivial
  exact ⟨hshort "value", hshort "value2"⟩

variable [Limits]

/-- What is given is within the limits of reading it: text is taken by the strict reader, and in a mapping there is room
for all groups and the lists are short. -/
inductive WithinLimits : Value → Prop where
  | text {s : String} (h : Json.Dialect.strict.Takes s) : WithinLimits (.text s)
  | bytes {bs : List UInt8} {s : String} (hs : Schema.text (.bytes bs) = .ok s) (h : Json.Dialect.strict.Takes s) :
      WithinLimits (.bytes bs)
  | data {es : List (Value × Value)} (hnests : (mapping es).Nests (some Limits.read))
      (hshort : (mapping es).ListsShort) : WithinLimits (.mapping es)

/-- The strict reader does not take the text. -/
inductive IsRefusedText : Value → Prop where
  | text {s : String} (h : ¬ Json.Dialect.strict.Takes s) : IsRefusedText (.text s)
  | bytes {bs : List UInt8} {s : String} (hs : Schema.text (.bytes bs) = .ok s)
      (h : ¬ Json.Dialect.strict.Takes s) : IsRefusedText (.bytes bs)

section

variable {s : String} {bs : List UInt8} {es : List (Value × Value)}

theorem withinLimits_text : (text s).WithinLimits ↔ Json.Dialect.strict.Takes s := by
  constructor
  · intro h
    cases h with
    | text h => exact h
  · exact .text

theorem withinLimits_bytes (hs : Schema.text (.bytes bs) = .ok s) :
    (bytes bs).WithinLimits ↔ Json.Dialect.strict.Takes s := by
  constructor
  · intro h
    cases h with
    | bytes hs' h =>
      cases hs.symm.trans hs'
      exact h
  · exact .bytes hs

theorem withinLimits_mapping :
    (mapping es).WithinLimits ↔ (mapping es).Nests (some Limits.read) ∧ (mapping es).ListsShort := by
  constructor
  · intro h
    cases h with
    | data hnests hshort => exact ⟨hnests, hshort⟩
  · exact fun h => .data h.1 h.2

theorem isRefusedText_text : (text s).IsRefusedText ↔ ¬ Json.Dialect.strict.Takes s := by
  constructor
  · intro h
    cases h with
    | text h => exact h
  · exact .text

theorem isRefusedText_bytes (hs : Schema.text (.bytes bs) = .ok s) :
    (bytes bs).IsRefusedText ↔ ¬ Json.Dialect.strict.Takes s := by
  constructor
  · intro h
    cases h with
    | bytes hs' h =>
      cases hs.symm.trans hs'
      exact h
  · exact .bytes hs

theorem not_isRefusedText_mapping : ¬ (mapping es).IsRefusedText := by
  intro h
  cases h

end

/-- The room for groups in data that is given in this way; the reader of text has a limit of its own. -/
def roomFor : Value → Option Nat
  | mapping _ => some Limits.read
  | _ => none

end Value

/-! ## Decoding -/

theorem OperatorName.ofText_eq_unknown {s name : String} (h : ofText s = unknown name) :
    Operator.ofLegacyName? s = none ∧ Operator.named? s = none := by
  unfold ofText at h
  split at h
  · cases h
  · rename_i hlegacy
    split at h
    · cases h
    · rename_i hnamed
      exact ⟨hlegacy, hnamed⟩

namespace Group

section

variable [Limits]

/-- JSON text is refused as a whole, or its data is read without a limit. -/
theorem checkText_of_read {s : String} {j : Json} (h : Json.read .free s = .ok j) :
    (Json.Dialect.strict.Takes s ∧ checkText s = check none j.toValue ∧ j.toValue.ListsShort) ∨
      (¬ Json.Dialect.strict.Takes s ∧ checkText s = pure (Checked.misfit .notJson)) := by
  cases hread : Json.read .strict s with
  | ok j' =>
    obtain ⟨hfree, htakes⟩ := Json.read_eq_ok_iff.1 hread
    cases h.symm.trans hfree
    exact .inl ⟨htakes, by simp only [checkText, hread], (Json.hasText_of_read hread).listsShort⟩
  | error fault =>
    refine .inr ⟨fun htakes => ?_, by simp only [checkText, hread]⟩
    cases hread.symm.trans (Json.read_eq_ok_iff.2 ⟨h, htakes⟩)

/-- However a tree is given, it is decoded by reading its data, unless it is refused as no JSON text. -/
theorem decode_of_givenAs {v input : Value} (h : v.GivenAs input) :
    (¬ input.IsRefusedText ∧ decode input = (do return (← check (roomFor input) v).mapError .problems) ∧
        (input.WithinLimits ↔ v.Nests (roomFor input) ∧ v.ListsShort)) ∨
      (input.IsRefusedText ∧ ¬ input.WithinLimits ∧
        decode input = pure (.error (.problems [⟨[], .notJson⟩]))) := by
  have hunlimited (v : Value) : v.Nests none := fun path g _ n hn => absurd hn (Option.not_mem_none n)
  cases h with
  | text h =>
    rw [isRefusedText_text, withinLimits_text]
    rcases checkText_of_read h with ⟨htakes, hcheck, hshort⟩ | ⟨htakes, hcheck⟩
    · exact .inl ⟨not_not.2 htakes, by simp only [decode, hcheck, roomFor],
        iff_of_true htakes ⟨hunlimited _, hshort⟩⟩
    · exact .inr ⟨htakes, htakes, by simp only [decode, hcheck, pure_bind]; rfl⟩
  | bytes hs h =>
    rw [isRefusedText_bytes hs, withinLimits_bytes hs]
    rcases checkText_of_read h with ⟨htakes, hcheck, hshort⟩ | ⟨htakes, hcheck⟩
    · exact .inl ⟨not_not.2 htakes, by simp only [decode, hs, hcheck, roomFor],
        iff_of_true htakes ⟨hunlimited _, hshort⟩⟩
    · exact .inr ⟨htakes, htakes, by simp only [decode, hs, hcheck, pure_bind]; rfl⟩
  | data h => exact .inl ⟨not_isRefusedText_mapping, rfl, withinLimits_mapping⟩

/-- What is decoded from a mapping stands for a tree within the limits. -/
theorem within_of_decode {es : List (Value × Value)} (hes : (mapping es).IsJson) {supply : IdSupply} {t : Group}
    (h : ((decode (.mapping es)).run supply).1 = .ok t) :
    (mapping es).IsTree ∧ (mapping es).Nests (some Limits.read) ∧ (mapping es).ListsShort := by
  have hfinds := check_finds (some Limits.read) (.mapping es) hes supply
  have hchecked : ((check (some Limits.read) (.mapping es)).run supply).1.mapError DecodeError.problems = .ok t := h
  rw [← isTree_iff]
  cases hresult : ((check (some Limits.read) (.mapping es)).run supply).1 with
  | ok t' =>
    rw [hresult] at hfinds
    exact hfinds
  | error ps =>
    rw [hresult] at hchecked
    cases hchecked

omit [Limits] in
/-- If problems lie wherever data is bad, one of them lies in each malformed condition. -/
theorem exists_mem_of_not_isCondition {room : Option Nat} {v c : Value} {ps : List Problem} {path : List String}
    (hplaces : ∀ place, (∃ p ∈ ps, p.place = place) ↔ BadAt room v place) (hat : v.ConditionAt path c)
    (hc : ¬ c.IsCondition) (hreaches : Reaches room path) : ∃ p ∈ ps, path <+: p.place := by
  have hplace : ¬ ∀ place, ¬ Condition.BadAt c place := fun h => hc (Condition.isCondition_iff.1 h).1
  obtain ⟨place, hplace⟩ := not_forall_not.1 hplace
  obtain ⟨p, hp, hplace⟩ := (hplaces _).2 (hat.badAt hreaches hplace)
  exact ⟨p, hp, place, hplace.symm⟩

omit [Limits] in
/-- One of them lies at or directly in each malformed group. -/
theorem exists_mem_of_not_isGroup {room : Option Nat} {v g : Value} {ps : List Problem} {path : List String}
    (hplaces : ∀ place, (∃ p ∈ ps, p.place = place) ↔ BadAt room v place) (hat : v.GroupAt path g)
    (hg : ¬ g.IsGroup) (hreaches : Reaches room path) :
    ∃ p ∈ ps, p.place = path ∨ ∃ key ∈ groupKeys, p.place = path ++ [key] := by
  rcases exists_badAt_of_not_isGroup hg (roomLeft room path) with hplace | ⟨key, hkey, hplace⟩
  · obtain ⟨p, hp, hplace⟩ := (hplaces _).2 (badAt_of_groupAt hat hreaches hplace)
    exact ⟨p, hp, .inl (by rw [hplace, List.append_nil])⟩
  · obtain ⟨p, hp, hplace⟩ := (hplaces _).2 (badAt_of_groupAt hat hreaches hplace)
    exact ⟨p, hp, .inr ⟨key, hkey, hplace⟩⟩

/-- Decoding accepts exactly the data that stands for a tree and is given within the limits. In a decoded tree only
names that mean nothing are kept as they are. JSON text that the strict reader does not take is refused as a whole. If
other data is refused, its problems lie where it is against the grammar or beyond the limits: some in each malformed
condition, and one at or directly in each group that is malformed in its own entries, as deep as there is room, whatever
else is wrong beside it. -/
theorem decode_iff_isTree {v input : Value} (hinput : v.GivenAs input) (supply : IdSupply) :
    ((∃ t, ((decode input).run supply).1 = .ok t) ↔ v.IsTree ∧ input.WithinLimits) ∧
      (∀ t, ((decode input).run supply).1 = .ok t → t.EachCondition fun c => ∀ name,
        c.operator = .unknown name → Operator.ofLegacyName? name = none ∧ Operator.named? name = none) ∧
      (input.IsRefusedText → ((decode input).run supply).1 = .error (.problems [⟨[], .notJson⟩])) ∧
      (¬ input.IsRefusedText → ¬ (v.IsTree ∧ input.WithinLimits) →
        ∃ ps, ((decode input).run supply).1 = .error (.problems ps) ∧
          (∀ place, (∃ p ∈ ps, p.place = place) ↔ BadAt (roomFor input) v place) ∧
          (∀ path c, v.ConditionAt path c → ¬ c.IsCondition → Reaches (roomFor input) path →
            ∃ p ∈ ps, path <+: p.place) ∧
          (∀ path g, v.GroupAt path g → ¬ g.IsGroup → Reaches (roomFor input) path →
            ∃ p ∈ ps, p.place = path ∨ ∃ key ∈ groupKeys, p.place = path ++ [key])) := by
  rcases decode_of_givenAs hinput with ⟨hnot, hread, hlimits⟩ | ⟨hrefused, hlimits, hdecoded⟩
  swap
  · have hno : ∀ t, (.error (.problems [⟨[], .notJson⟩]) : Except DecodeError Group) ≠ .ok t := nofun
    rw [hdecoded]
    exact ⟨iff_of_false (fun ⟨t, ht⟩ => hno t ht) fun h => hlimits h.2, fun t ht => absurd ht (hno t),
      fun _ => rfl, fun h => absurd hrefused h⟩
  have hdecoded : ((decode input).run supply).1 = ((check (roomFor input) v).run supply).1.mapError .problems := by
    rw [hread]
    rfl
  have hfinds := check_finds (roomFor input) v hinput.isJson supply
  have hsettled : ∀ t, ((check (roomFor input) v).run supply).1 = .ok t → t.EachCondition Condition.Settled :=
    fun t ht c hc => ((check_sound (roomFor input) v hinput.isJson supply t ht).conditions c hc).1
  rw [hdecoded, hlimits, ← isTree_iff]
  generalize ((check (roomFor input) v).run supply).1 = checked at hfinds hsettled
  cases checked with
  | ok t =>
    refine ⟨⟨fun _ => hfinds, fun _ => ⟨t, rfl⟩⟩, ?_, fun h => absurd h hnot, fun _ hbad => absurd hfinds hbad⟩
    rintro t' ht' c hc name hname
    cases ht'
    have hoperator : OperatorName.ofText c.operator.text = c.operator := hsettled t rfl c hc
    rw [hname] at hoperator
    exact OperatorName.ofText_eq_unknown hoperator
  | error ps =>
    obtain ⟨hnonempty, hplaces⟩ := hfinds
    have hbad : ¬ ∀ place, ¬ BadAt (roomFor input) v place := by
      obtain ⟨p, hp⟩ := List.exists_mem_of_ne_nil ps hnonempty
      exact fun hgood => hgood p.place ((hplaces p.place).1 ⟨p, hp, rfl⟩)
    have hno : ∀ t, Except.error (.problems ps) ≠ (.ok t : Except DecodeError Group) := nofun
    refine ⟨iff_of_false (fun ⟨t, ht⟩ => hno t ht) hbad, fun t ht => absurd ht (hno t), fun h => absurd h hnot,
      fun _ _ => ⟨ps, rfl, hplaces, fun path c hat hc hreaches => ?_, fun path g hat hg hreaches => ?_⟩⟩
    · exact exists_mem_of_not_isCondition hplaces hat hc hreaches
    · exact exists_mem_of_not_isGroup hplaces hat hg hreaches

end

/-- For a condition without a field beside a sub-group with an unknown connective, which holds a condition
whose value is an object. -/
theorem decode_iff_isTree_siblings :
    let inner : Value := .mapping [(.text "field", .text "score"), (.text "operator", .text "equals"),
      (.text "value", .mapping [])]
    let sub : Value := .mapping [(.text "operator", .text "xor"), (.text "conditions", .collection .list [inner])]
    let bare : Value := .mapping [(.text "operator", .text "exists")]
    let es : List (Value × Value) := [(.text "conditions", .collection .list [bare]),
      (.text "groups", .collection .list [.mapping [], sub])]
    (Value.mapping es).GivenAs (.mapping es) ∧ ∃ ps,
      ((decode (.mapping es)).run ⟨0⟩).1 = .error (.problems ps) ∧
        (∃ p ∈ ps, ["conditions", "0"] <+: p.place) ∧
        (∃ p ∈ ps, ["groups", "1", "conditions", "0"] <+: p.place) ∧
        ∃ p ∈ ps, p.place = ["groups", "1"] ∨ ∃ key ∈ groupKeys, p.place = ["groups", "1", key] := by
  intro inner sub bare es
  have hgiven : (Value.mapping es).GivenAs (.mapping es) :=
    .data (by simp [es, bare, sub, inner, EntriesJson, IsJsonWith, AllJson])
  have hbare : ¬ bare.IsCondition := by
    rintro ⟨_, heq, hes⟩
    obtain rfl := Value.mapping.inj heq
    obtain ⟨v, hv, -⟩ := hes.field
    cases hv
  have hinner : ¬ inner.IsCondition := by
    rintro ⟨_, heq, hes⟩
    obtain rfl := Value.mapping.inj heq
    exact hes.value (.mapping []) rfl
  have hsub : ¬ sub.IsGroup := by
    rintro ⟨_, heq, hes⟩
    obtain rfl := Value.mapping.inj heq
    obtain ⟨s, hs, hupper⟩ := hes.operator (.text "xor") rfl
    cases hs
    revert hupper
    decide +kernel
  have hgroup : (Value.mapping es).GroupAt ["groups", "1"] sub := .within rfl (i := 1) rfl (.here sub)
  have hnot : ¬ (Value.mapping es).IsTree := fun htree => by
    cases htree with
    | node _ conditions _ => exact hbare (conditions [bare] rfl bare List.mem_cons_self)
  have hreaches {path : List String} (hpath : path.length ≤ 510) : Reaches (roomFor (.mapping es)) path :=
    fun n hn => Option.mem_some_iff.1 hn ▸ hpath
  obtain ⟨-, -, -, hrefused⟩ := decode_iff_isTree hgiven ⟨0⟩
  obtain ⟨ps, hps, -, hconditions, hgroups⟩ := hrefused nofun fun h => hnot h.1
  refine ⟨hgiven, ps, hps, ?_, ?_, hgroups _ _ hgroup hsub (hreaches (by decide))⟩
  · exact hconditions _ _ (.intro (.here _) (i := 0) rfl rfl) hbare (hreaches (by decide))
  · exact hconditions _ _ (.intro hgroup (i := 0) rfl rfl) hinner (hreaches (by decide))

/-- A condition whose value is a list with an integer that is too long stands in a tree that is refused. -/
theorem isTree_longList_refused :
    let c : Value := .mapping [(.text "field", .text "score"), (.text "operator", .text "equals"),
      (.text "value", longList)]
    let v : Value := .mapping [(.text "conditions", .collection .list [c])]
    v.GivenAs v ∧ v.IsTree ∧ ∀ supply t, ((decode v).run supply).1 ≠ .ok t := by
  intro c v
  have hlist : longList.IsJson := ⟨trivial, trivial⟩
  have hgiven : v.GivenAs v := .data (by simp [c, EntriesJson, IsJsonWith, AllJson, hlist])
  have hc : c.IsCondition := by
    refine ⟨_, rfl, nofun, ⟨_, rfl, _, rfl⟩, ⟨_, rfl, _, rfl⟩, fun w hw => ?_, nofun⟩
    rw [← Option.some.inj hw]
    trivial
  have hshort : ¬ v.ListsShort := fun hshort => by
    have hc := hshort _ _ (.intro (.here _) (i := 0) rfl rfl)
    have hlist : longList.IsShortList := hc.value longList rfl
    exact not_hasText_longest (allJson_iff.1 hlist _ List.mem_cons_self)
  refine ⟨hgiven, ?_, fun supply t ht => ?_⟩
  · refine .node ⟨nofun, nofun, fun w hw => ?_, nofun⟩ (fun items hitems c' hc' => ?_) nofun
    · cases hw
      exact ⟨_, rfl⟩
    · cases hitems
      cases List.mem_singleton.1 hc'
      exact hc
  · exact hshort (within_of_decode hgiven.isJson ht).2.2

end Group

end Segmentation
