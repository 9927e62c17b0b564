import Mathlib.Data.List.Perm.Basic
import Segmentation.Proofs.Catalogue.Acceptance

/-!
# What a catalogue finds

* `Catalogue.filter_key_eq`: the fields with a key are the one that is found, or none.
* `Catalogue.exists_row`: every field type has its row of operators, and the row has a first one.
* `Catalogue.Grouping`: fields in their groups, both in the order in which they come up.
* `Catalogue.Grouping.addToGroup`, `Catalogue.Grouping.foldl`: adding a field keeps this, and so does adding several.
* `Catalogue.Grouping.perm`, `Catalogue.Grouping.exists_entry`: so every field is in one group and once in it.
* `Catalogue.tables_total`: which data is accepted as a catalogue, and what an accepted catalogue finds.
-/

namespace Segmentation

/-! ## Looking up -/

/-- If no two elements have one key, those with a key are the first one with it. -/
theorem filter_key_eq_find? {α κ : Type} [DecidableEq κ] {key : α → κ} {xs : List α} (h : (xs.map key).Nodup) (k : κ) :
    xs.filter (key · = k) = (xs.find? (key · = k)).toList := by
  induction xs with
  | nil => rfl
  | cons x xs ih =>
    rw [List.map_cons, List.nodup_cons] at h
    by_cases hx : key x = k
    · have hrest : xs.filter (key · = k) = [] := by
        refine List.filter_eq_nil_iff.2 fun y hy hkey => h.1 ?_
        rw [hx, ← of_decide_eq_true hkey]
        exact List.mem_map_of_mem hy
      rw [List.filter_cons_of_pos (by simpa using hx), List.find?_cons_of_pos (by simpa using hx), hrest]
      rfl
    · rw [List.filter_cons_of_neg (by simpa using hx), List.find?_cons_of_neg (by simpa using hx)]
      exact ih h.2

namespace Catalogue

theorem filter_key_eq (c : Catalogue) (key : String) : c.fields.filter (·.key = key) = (c.field? key).toList :=
  filter_key_eq_find? c.wellFormed.keys_nodup key

/-- The row of a type is there, and it is not empty. -/
theorem exists_row (c : Catalogue) (type : FieldType) : ∃ operator operators,
    c.operators.find? (·.1 = type) = some (type, operator :: operators) ∧
      c.operatorsForType type = operator :: operators := by
  have hne := c.operatorsForType_ne_nil type
  unfold operatorsForType operatorsIn at hne ⊢
  cases hfound : c.operators.find? (·.1 = type) with
  | none =>
    rw [hfound] at hne
    exact absurd rfl hne
  | some row =>
    have htype : row.1 = type := by simpa using List.find?_some hfound
    rw [hfound] at hne
    obtain ⟨operator, operators, hrow⟩ := List.exists_cons_of_ne_nil hne
    obtain ⟨type', listed⟩ := row
    obtain rfl : type' = type := htype
    obtain rfl : listed = operator :: operators := hrow
    exact ⟨operator, operators, rfl, rfl⟩

/-- Every field, also an unknown one, has operators, and the first one is its default. -/
theorem exists_operators (c : Catalogue) (key : String) : ∃ operator operators,
    c.operators.find? (·.1 = c.fieldType key) = some (c.fieldType key, operator :: operators) ∧
      c.operatorsFor key = operator :: operators ∧ c.defaultOperator key = operator := by
  obtain ⟨operator, operators, hrow, hlisted⟩ := c.exists_row (c.fieldType key)
  have hlisted : c.operatorsFor key = operator :: operators := hlisted
  refine ⟨operator, operators, hrow, hlisted, ?_⟩
  unfold defaultOperator
  simp only [hlisted, List.head_cons]

/-! ## Groups -/

variable {fields : List Field} {groups : List (String × List Field)}

/-- There is a group for every name that a field has for its group. The groups come in the order in which their first
fields do, and each has the fields with its name, in their order. -/
structure Grouping (fields : List Field) (groups : List (String × List Field)) : Prop where
  names : ∀ name, name ∈ groups.map (·.1) ↔ name ∈ fields.map (·.group)
  order : (groups.map (·.1)).Pairwise fun a b => (fields.map (·.group)).idxOf a < (fields.map (·.group)).idxOf b
  members : ∀ name fs, (name, fs) ∈ groups → fs = fields.filter (·.group = name)

theorem map_fst_addToGroup (groups : List (String × List Field)) (f : Field) :
    (addToGroup groups f).map (·.1) =
      if f.group ∈ groups.map (·.1) then groups.map (·.1) else groups.map (·.1) ++ [f.group] := by
  refine map_fst_put (fun e => ?_) groups (f.group, [f])
  dsimp only
  split_ifs <;> rfl

namespace Grouping

theorem nil : Grouping [] [] :=
  ⟨fun _ => Iff.rfl, .nil, nofun⟩

/-- What stands in front stays where it comes up first. -/
theorem order_append (h : Grouping fields groups) (f : Field) :
    (groups.map (·.1)).Pairwise fun a b =>
      ((fields ++ [f]).map (·.group)).idxOf a < ((fields ++ [f]).map (·.group)).idxOf b := by
  refine h.order.imp_of_mem fun ha hb hlt => ?_
  rw [List.map_append, List.idxOf_append_of_mem ((h.names _).1 ha), List.idxOf_append_of_mem ((h.names _).1 hb)]
  exact hlt

/-- The field goes to the end of its group. -/
theorem addToGroup_of_mem (h : Grouping fields groups) {f : Field} (hgroup : f.group ∈ groups.map (·.1)) :
    Grouping (fields ++ [f]) (Catalogue.addToGroup groups f) := by
  have hnames : (Catalogue.addToGroup groups f).map (·.1) = groups.map (·.1) := by
    rw [map_fst_addToGroup, if_pos hgroup]
  refine ⟨fun name => ?_, ?_, fun name fs hmem => ?_⟩
  · rw [hnames, h.names, List.map_append, List.mem_append]
    refine ⟨.inl, fun hname => hname.elim id fun hlast => ?_⟩
    rw [List.mem_singleton.1 hlast]
    exact (h.names _).1 hgroup
  · rw [hnames]
    exact h.order_append f
  · have hany : groups.any (·.1 = f.group) = true := by simpa using hgroup
    rw [Catalogue.addToGroup, if_pos hany] at hmem
    obtain ⟨⟨name', fs'⟩, hmem, heq⟩ := List.mem_map.1 hmem
    obtain rfl := h.members _ _ hmem
    dsimp only at heq
    split_ifs at heq with hname
    · obtain ⟨rfl, rfl⟩ := Prod.mk.inj heq
      simp [hname]
    · obtain ⟨rfl, rfl⟩ := Prod.mk.inj heq
      simp [Ne.symm hname]

/-- The field is the first one of its group, and no field so far has this name. -/
theorem addToGroup_of_notMem (h : Grouping fields groups) {f : Field} (hgroup : f.group ∉ groups.map (·.1)) :
    Grouping (fields ++ [f]) (Catalogue.addToGroup groups f) := by
  have hnames : (Catalogue.addToGroup groups f).map (·.1) = groups.map (·.1) ++ [f.group] := by
    rw [map_fst_addToGroup, if_neg hgroup]
  have hfields : f.group ∉ fields.map (·.group) := fun hmem => hgroup ((h.names _).2 hmem)
  refine ⟨fun name => ?_, ?_, fun name fs hmem => ?_⟩
  · rw [hnames, List.map_append, List.mem_append, List.mem_append, h.names]
    rfl
  · rw [hnames, List.pairwise_append]
    refine ⟨h.order_append f, List.pairwise_singleton _ _, fun a ha b hb => ?_⟩
    rw [List.mem_singleton.1 hb, List.map_append, List.idxOf_append_of_mem ((h.names _).1 ha),
      List.idxOf_append_of_notMem hfields]
    exact Nat.lt_of_lt_of_le (List.idxOf_lt_length_of_mem ((h.names _).1 ha)) (Nat.le_add_right _ _)
  · have hany : ¬ groups.any (·.1 = f.group) = true := by simpa using hgroup
    rw [Catalogue.addToGroup, if_neg hany, List.mem_append, List.mem_singleton] at hmem
    rcases hmem with hmem | heq
    · have hname : f.group ≠ name := fun hname => hgroup (hname ▸ List.mem_map_of_mem hmem)
      rw [h.members _ _ hmem]
      simp [hname]
    · obtain ⟨rfl, rfl⟩ := Prod.mk.inj heq
      have hnone : fields.filter (·.group = f.group) = [] :=
        List.filter_eq_nil_iff.2 fun g hg hname => hfields (of_decide_eq_true hname ▸ List.mem_map_of_mem hg)
      rw [List.filter_append, hnone]
      simp

theorem addToGroup (h : Grouping fields groups) (f : Field) :
    Grouping (fields ++ [f]) (Catalogue.addToGroup groups f) := by
  by_cases hgroup : f.group ∈ groups.map (·.1)
  · exact h.addToGroup_of_mem hgroup
  · exact h.addToGroup_of_notMem hgroup

theorem foldl (h : Grouping fields groups) (fs : List Field) :
    Grouping (fields ++ fs) (fs.foldl Catalogue.addToGroup groups) := by
  induction fs generalizing fields groups with
  | nil => rwa [List.append_nil]
  | cons f fs ih =>
    have hrest := ih (h.addToGroup f)
    rwa [List.append_assoc] at hrest

/-- The groups have different names. -/
theorem pairwise_ne (h : Grouping fields groups) : groups.Pairwise fun e e' => e.1 ≠ e'.1 := by
  refine (List.pairwise_map.1 h.order).imp fun hlt heq => ?_
  rw [heq] at hlt
  exact Nat.lt_irrefl _ hlt

/-- A field is in the group with its name and in no other one. -/
theorem exists_entry (h : Grouping fields groups) {f : Field} (hf : f ∈ fields) :
    ∃ fs, (f.group, fs) ∈ groups ∧ f ∈ fs ∧ ∀ entry ∈ groups, f ∈ entry.2 → entry = (f.group, fs) := by
  obtain ⟨⟨name, fs⟩, hmem, hname⟩ := List.mem_map.1 ((h.names f.group).2 (List.mem_map_of_mem hf))
  obtain rfl : name = f.group := hname
  obtain rfl := h.members _ _ hmem
  refine ⟨_, hmem, List.mem_filter.2 ⟨hf, decide_eq_true rfl⟩, ?_⟩
  rintro ⟨name, fs⟩ hentry hin
  obtain rfl := h.members _ _ hentry
  obtain rfl : f.group = name := of_decide_eq_true (List.mem_filter.1 hin).2
  rfl

/-- All groups together have the fields, each as often as it was given. -/
theorem perm (h : Grouping fields groups) (hfields : fields.Nodup) : (groups.flatMap (·.2)).Perm fields := by
  have hgroups : (groups.flatMap (·.2)).Nodup := by
    refine List.nodup_flatMap.2 ⟨fun entry hentry => ?_, ?_⟩
    · rw [h.members entry.1 entry.2 hentry]
      exact hfields.filter _
    · refine h.pairwise_ne.imp_of_mem fun {e e'} he he' hne f hf hf' => hne ?_
      dsimp only at hf hf'
      rw [h.members e.1 e.2 he] at hf
      rw [h.members e'.1 e'.2 he'] at hf'
      exact (of_decide_eq_true (List.mem_filter.1 hf).2).symm.trans (of_decide_eq_true (List.mem_filter.1 hf').2)
  refine (List.perm_ext_iff_of_nodup hgroups hfields).2 fun f => ?_
  rw [List.mem_flatMap]
  constructor
  · rintro ⟨entry, hentry, hf⟩
    rw [h.members entry.1 entry.2 hentry] at hf
    exact (List.mem_filter.1 hf).1
  · intro hf
    obtain ⟨fs, hentry, hin, -⟩ := h.exists_entry hf
    exact ⟨_, hentry, hin⟩

end Grouping

theorem grouping_grouped (c : Catalogue) : Grouping c.fields c.grouped :=
  Grouping.nil.foldl c.fields

theorem nodup_fields (c : Catalogue) : c.fields.Nodup :=
  c.wellFormed.keys_nodup.of_map _

/-! ## From data to tables -/

/-- Well-typed data, and no other, may be accepted as a catalogue; it is accepted exactly if it has a field, its keys
are pairwise distinct, exactly the select fields have choices, at least one, and every type has operators. An accepted
catalogue has these fields and operators. It finds the one field with a key, or none; it has operators and a default for
every key; and every field is in exactly one group, the one it names, in order. -/
theorem tables_total :
    (∀ (v : Value) (fields : List Field) (table : List (FieldType × List Operator)), StandsFor v fields table →
      ((∃ c, check v = .ok c) ↔
        fields ≠ [] ∧ (fields.map (·.key)).Nodup ∧
          (∀ f ∈ fields, f.type = .select → ∃ o os, f.options = some (o :: os)) ∧
          (∀ f ∈ fields, f.type ≠ .select → f.options = none) ∧
          ∀ type, ∃ operator operators, lastRow? table type = some (operator :: operators)) ∧
      ∀ c, check v = .ok c → c.fields = fields ∧ (c.operators.map (·.1)).Nodup ∧
        ∀ type, (c.operators.find? (·.1 = type)).map (·.2) = lastRow? table type) ∧
    (∀ v c, check v = .ok c → ∃ table, StandsFor v c.fields table) ∧
    ∀ c : Catalogue,
      (∀ key, c.fields.filter (·.key = key) = (c.field? key).toList) ∧
      (∀ key, ∃ operator operators,
        c.operators.find? (·.1 = c.fieldType key) = some (c.fieldType key, operator :: operators) ∧
          c.operatorsFor key = operator :: operators ∧ c.defaultOperator key = operator) ∧
      Grouping c.fields c.grouped ∧ (c.grouped.flatMap (·.2)).Perm c.fields ∧
      ∀ f ∈ c.fields, ∃ fs, (f.group, fs) ∈ c.grouped ∧ f ∈ fs ∧
        ∀ entry ∈ c.grouped, f ∈ entry.2 → entry = (f.group, fs) := by
  refine ⟨fun v fields table h => ⟨?_, fun c hc => ?_⟩, fun v c hc => ?_, fun c => ?_⟩
  · have hfit : (∀ f ∈ fields, f.OptionsFit) ↔
        (∀ f ∈ fields, f.type = .select → ∃ o os, f.options = some (o :: os)) ∧
          ∀ f ∈ fields, f.type ≠ .select → f.options = none := by
      simp only [Field.optionsFit_iff, ← forall₂_and]
    rw [exists_check_iff h, hfit, and_assoc]
  · obtain ⟨hfields, hoperators⟩ := (check_eq_ok_of_standsFor h).1 hc
    refine ⟨hfields, ?_, fun type => ?_⟩
    · rw [hoperators]
      exact nodup_foldl_setOperators List.nodup_nil
    · rw [hoperators, find?_foldl_setOperators, List.find?_nil, Option.or_none]
      rfl
  · obtain ⟨table, h, -⟩ := check_eq_ok.1 hc
    exact ⟨table, h⟩
  · have hgrouped := c.grouping_grouped
    exact ⟨c.filter_key_eq, c.exists_operators, hgrouped, hgrouped.perm c.nodup_fields, fun f => hgrouped.exists_entry⟩

/-- A field between two of another group. -/
def interleaved : List Field :=
  [{ key := "stage", label := "Stage", type := .select, group := "Sales", options := some [⟨"lead", "Lead"⟩] },
    { key := "name", label := "Name", type := .string },
    { key := "amount", label := "Amount", type := .number, group := "Sales" }]

/-- Two fields of one group with another one between them are accepted and stand together; the same fields given twice
are refused. -/
theorem tables_total_interleaved :
    (∃ c, check (encode interleaved standardOperators) = .ok c) ∧
      (∀ c, check (encode interleaved standardOperators) = .ok c →
        c.grouped.map (fun entry => (entry.1, entry.2.map (·.key))) =
          [("Sales", ["stage", "amount"]), ("General", ["name"])]) ∧
      ¬ ∃ c, check (encode (interleaved ++ interleaved) standardOperators) = .ok c := by
  have hkeys : ∀ f ∈ interleaved, f.key ≠ "" := by decide
  have htwice : ∀ f ∈ interleaved ++ interleaved, f.key ≠ "" := by decide
  obtain ⟨haccepted, hread⟩ := tables_total.1 _ _ _ (standsFor_encode hkeys standardOperators)
  obtain ⟨hrefused, -⟩ := tables_total.1 _ _ _ (standsFor_encode htwice standardOperators)
  refine ⟨haccepted.2 ⟨by decide, by decide, ?_, ?_, ?_⟩, fun c hc => ?_, fun h => ?_⟩
  · intro f hf hselect
    exact (Field.optionsFit_iff.1 ((by decide : ∀ f ∈ interleaved, f.OptionsFit) f hf)).1 hselect
  · intro f hf hother
    exact (Field.optionsFit_iff.1 ((by decide : ∀ f ∈ interleaved, f.OptionsFit) f hf)).2 hother
  · intro type
    cases type <;> exact ⟨_, _, rfl⟩
  · unfold grouped
    rw [(hread c hc).1]
    decide
  · exact absurd (hrefused.1 h).2.1 (by decide)

end Catalogue

end Segmentation
