import Mathlib.Data.List.Nodup
import Segmentation.Catalogue.Checking
import Segmentation.Proofs.Catalogue.Operators
import Segmentation.Proofs.Schema.WellTyped

/-!
# Data that is accepted as a catalogue

* `Field.StandsFor`, `Catalogue.StandsFor`: well-typed data, and the fields and the rows of operators that it stands for.
* `Field.standsFor_encode`, `Catalogue.standsFor_encode`: there is such data for all fields and rows.
* `Field.check_eq_ok`: a field is read from well-typed data exactly if its choices fit its type.
* `map_fst_put`: putting a row into a table moves no key.
* `Catalogue.find?_foldl_setOperators`: of several rows for a type the last one counts.
* `Catalogue.check_eq_ok`: a catalogue is read exactly from the well-typed data that stands for its fields and table.
* `Catalogue.exists_check_iff`: such data is accepted exactly if its fields and its table are well formed.
-/

namespace Segmentation

open Value Schema

/-! ## Names -/

theorem FieldType.named?_eq_some {s : String} {type : FieldType} : named? s = some type ↔ type.name = s := by
  constructor
  · intro h
    unfold named? at h
    simpa using List.find?_some h
  · rintro rfl
    cases type <;> decide

theorem Operator.named?_eq_some {s : String} {operator : Operator} : named? s = some operator ↔ operator.name = s := by
  constructor
  · intro h
    unfold named? at h
    simpa using List.find?_some h
  · rintro rfl
    exact named?_name operator

/-! ## Fields -/

/-- The data stands for the choice. -/
def FieldOption.StandsFor (v : Value) (o : FieldOption) : Prop :=
  ∃ es, v = .mapping es ∧ IsPresent es "value" (Spells · o.value) ∧ IsPresent es "label" (Spells · o.label)

/-- The data of a choice. -/
def FieldOption.encode (o : FieldOption) : Value :=
  .ofFields [("value", .text o.value), ("label", .text o.label)]

theorem FieldOption.standsFor_encode (o : FieldOption) : StandsFor o.encode o :=
  ⟨_, rfl, ⟨_, rfl, .inl rfl⟩, ⟨_, rfl, .inl rfl⟩⟩

theorem FieldOption.check_reads : Reads FieldOption.check FieldOption.StandsFor := by
  intro v o
  simp only [FieldOption.check, StandsFor, bind_eq_ok, entries_eq_ok, map_eq_ok, Checked.both_eq_ok,
    text_reads.required]
  constructor
  · rintro ⟨es, rfl, ⟨value, label⟩, ⟨hvalue, hlabel⟩, rfl⟩
    exact ⟨es, rfl, hvalue, hlabel⟩
  · rintro ⟨es, rfl, hvalue, hlabel⟩
    exact ⟨es, rfl, (o.value, o.label), ⟨hvalue, hlabel⟩, rfl⟩

namespace Field

/-- The entries define the field: its key has characters, and its type is one of the known ones. Whether its choices
fit the type is left open. -/
structure DefinedBy (es : List (Value × Value)) (f : Field) : Prop where
  key : IsPresent es "key" fun v => v.Spells f.key ∧ f.key ≠ ""
  label : IsPresent es "label" (Spells · f.label)
  type : IsPresent es "type" (Spells · f.type.name)
  group : EntryOr Spells es "group" "General" f.group
  options : EntryOr (Optionally (Enumerates FieldOption.StandsFor)) es "options" none f.options
  description : EntryOr (Optionally Spells) es "description" none f.description

/-- The data stands for the field. -/
def StandsFor (v : Value) (f : Field) : Prop :=
  ∃ es, v = .mapping es ∧ DefinedBy es f

/-- The data of a field. -/
def encode (f : Field) : Value :=
  .ofFields [("key", .text f.key), ("label", .text f.label), ("type", .text f.type.name), ("group", .text f.group),
    ("options", match f.options with
      | none => .null
      | some options => .collection .list (options.map FieldOption.encode)),
    ("description", match f.description with
      | none => .null
      | some description => .text description)]

/-- There is data for every field whose key has characters. -/
theorem standsFor_encode {f : Field} (hkey : f.key ≠ "") : StandsFor f.encode f := by
  refine ⟨_, rfl, ⟨_, rfl, .inl rfl, hkey⟩, ⟨_, rfl, .inl rfl⟩, ⟨_, rfl, .inl rfl⟩, .inl ⟨_, rfl, .inl rfl⟩,
    .inl ⟨_, rfl, ?_⟩, .inl ⟨_, rfl, ?_⟩⟩
  · cases f.options with
    | none => rfl
    | some options => exact ⟨nofun, enumerates_map FieldOption.standsFor_encode options⟩
  · cases f.description with
    | none => rfl
    | some description => exact ⟨nofun, .inl rfl⟩

theorem type_reads : Reads (name FieldType.named?) fun v type => v.Spells type.name :=
  name_reads fun _ _ => FieldType.named?_eq_some

theorem options_reads : Reads (optional (sequence .notATuple FieldOption.check))
    (Optionally (Enumerates FieldOption.StandsFor)) :=
  (FieldOption.check_reads.sequence _).optional

theorem DefinedBy.unique {es : List (Value × Value)} {f g : Field} (hf : DefinedBy es f) (hg : DefinedBy es g) :
    f = g := by
  have hkey := nonEmptyText_reads.entry_unique hf.key hg.key
  have hlabel := text_reads.entry_unique hf.label hg.label
  have htype := type_reads.entry_unique hf.type hg.type
  have hgroup := text_reads.entryOr_unique hf.group hg.group
  have hoptions := options_reads.entryOr_unique hf.options hg.options
  have hdescription := text_reads.optional.entryOr_unique hf.description hg.description
  obtain ⟨key, label, type, group, options, description⟩ := f
  obtain rfl : key = g.key := hkey
  obtain rfl : label = g.label := hlabel
  obtain rfl : type = g.type := htype
  obtain rfl : group = g.group := hgroup
  obtain rfl : options = g.options := hoptions
  obtain rfl : description = g.description := hdescription
  rfl

theorem StandsFor.unique {v : Value} {f g : Field} (hf : StandsFor v f) (hg : StandsFor v g) : f = g := by
  obtain ⟨es, rfl, hf⟩ := hf
  obtain ⟨es', hes, hg⟩ := hg
  cases hes
  exact hf.unique hg

theorem obeying_eq_ok {f g : Field} : f.obeying = .ok g ↔ f = g ∧ f.OptionsFit := by
  unfold obeying
  split_ifs with hfit <;> simp [hfit]

/-- A field is read from data that stands for it, if its choices fit its type. -/
theorem check_eq_ok {v : Value} {f : Field} : check v = .ok f ↔ StandsFor v f ∧ f.OptionsFit := by
  unfold check StandsFor
  simp only [bind_eq_ok, entries_eq_ok]
  constructor
  · rintro ⟨es, rfl, ⟨key, label, type, group, options, description⟩, hparts, h⟩
    obtain ⟨rfl, hfit⟩ := obeying_eq_ok.1 (Schema.obeying_eq_ok.1 h)
    simp only [Checked.both_eq_ok] at hparts
    obtain ⟨hkey, hlabel, htype, hgroup, hoptions, hdescription⟩ := hparts
    exact ⟨⟨es, rfl, nonEmptyText_reads.required.1 hkey, text_reads.required.1 hlabel, type_reads.required.1 htype,
      text_reads.withDefault.1 hgroup, options_reads.withDefault.1 hoptions,
      text_reads.optional.withDefault.1 hdescription⟩, hfit⟩
  · rintro ⟨⟨es, rfl, h⟩, hfit⟩
    refine ⟨es, rfl, (f.key, f.label, f.type, f.group, f.options, f.description), ?_, ?_⟩
    · simp only [Checked.both_eq_ok]
      exact ⟨nonEmptyText_reads.required.2 h.key, text_reads.required.2 h.label, type_reads.required.2 h.type,
        text_reads.withDefault.2 h.group, options_reads.withDefault.2 h.options,
        text_reads.optional.withDefault.2 h.description⟩
    · exact Schema.obeying_eq_ok.2 (obeying_eq_ok.2 ⟨rfl, hfit⟩)

theorem check_reads : Reads check fun v f => StandsFor v f ∧ f.OptionsFit :=
  fun _ _ => check_eq_ok

/-- The choices fit if a select field has some and any other field has none. -/
theorem optionsFit_iff {f : Field} :
    f.OptionsFit ↔
      (f.type = .select → ∃ o os, f.options = some (o :: os)) ∧ (f.type ≠ .select → f.options = none) := by
  unfold OptionsFit
  cases f.options with
  | none => simp
  | some options =>
    cases options with
    | nil => simp
    | cons o os =>
      by_cases hselect : f.type = .select <;> simp [hselect]

end Field

/-! ## Tables of operators -/

section Rows

variable {κ β : Type} [DecidableEq κ] {table : List (κ × β)} {change : κ × β → κ × β}

/-- A row goes under its key if that is there, and to the end otherwise; no key is moved. -/
theorem map_fst_put (hchange : ∀ e, (change e).1 = e.1) (table : List (κ × β)) (row : κ × β) :
    (if table.any (·.1 = row.1) then table.map change else table ++ [row]).map (·.1) =
      if row.1 ∈ table.map (·.1) then table.map (·.1) else table.map (·.1) ++ [row.1] := by
  have hany : table.any (·.1 = row.1) = true ↔ row.1 ∈ table.map (·.1) := by
    simp [List.any_eq_true]
  simp only [hany]
  split_ifs
  · rw [List.map_map]
    exact List.map_congr_left fun e _ => hchange e
  · rw [List.map_append]
    rfl

theorem nodup_put (hchange : ∀ e, (change e).1 = e.1) (h : (table.map (·.1)).Nodup) (row : κ × β) :
    ((if table.any (·.1 = row.1) then table.map change else table ++ [row]).map (·.1)).Nodup := by
  rw [map_fst_put hchange]
  split_ifs with hmem
  · exact h
  · rw [← List.concat_eq_append]
    exact h.concat hmem

end Rows

namespace Catalogue

variable {table : List (FieldType × List Operator)}

/-- What the rows list for a field type: of several rows for one type the last one counts. -/
def lastRow? (table : List (FieldType × List Operator)) (type : FieldType) : Option (List Operator) :=
  (table.findRev? (·.1 = type)).map (·.2)

theorem nodup_foldl_setOperators {start : List (FieldType × List Operator)} (h : (start.map (·.1)).Nodup) :
    ((table.foldl setOperators start).map (·.1)).Nodup := by
  induction table generalizing start with
  | nil => exact h
  | cons entry table ih =>
    refine ih (nodup_put (fun e => ?_) h entry)
    split_ifs with he
    · exact he.symm
    · rfl

theorem find?_setOperators (table : List (FieldType × List Operator)) (entry : FieldType × List Operator)
    (type : FieldType) :
    (setOperators table entry).find? (·.1 = type) =
      if entry.1 = type then some entry else table.find? (·.1 = type) := by
  unfold setOperators
  by_cases hany : table.any (·.1 = entry.1)
  · -- a row stays under its type, so that the row that is found is the same one before and after
    have hsame : ((fun e : FieldType × List Operator => decide (e.1 = type)) ∘
        fun e => if e.1 = entry.1 then entry else e) = fun e => decide (e.1 = type) := by
      funext e
      dsimp only [Function.comp_apply]
      split_ifs with he
      · rw [he]
      · rfl
    rw [if_pos hany, List.find?_map, hsame]
    cases hfound : table.find? (·.1 = type) with
    | none =>
      have hnot : entry.1 ≠ type := by
        rintro rfl
        obtain ⟨e, he, hetype⟩ := List.any_eq_true.1 hany
        exact List.find?_eq_none.1 hfound e he hetype
      rw [if_neg hnot]
      rfl
    | some e =>
      have hetype : e.1 = type := by simpa using List.find?_some hfound
      rw [Option.map_some, hetype]
      simp only [eq_comm (a := type)]
      split_ifs <;> rfl
  · rw [if_neg hany, List.find?_append]
    by_cases htype : entry.1 = type
    · have hnone : table.find? (·.1 = type) = none := by
        refine List.find?_eq_none.2 fun e he hetype => hany (List.any_eq_true.2 ⟨e, he, ?_⟩)
        rw [htype]
        exact hetype
      rw [hnone, if_pos htype]
      simp [htype]
    · rw [if_neg htype]
      simp [htype]

/-- Of several rows for a type the last one counts. -/
theorem find?_foldl_setOperators (table start : List (FieldType × List Operator)) (type : FieldType) :
    (table.foldl setOperators start).find? (·.1 = type) =
      (table.findRev? (·.1 = type)).or (start.find? (·.1 = type)) := by
  induction table generalizing start with
  | nil => rfl
  | cons entry table ih =>
    rw [List.foldl_cons, ih, find?_setOperators, List.findRev?_eq_find?_reverse, List.findRev?_eq_find?_reverse,
      List.reverse_cons, List.find?_append, Option.or_assoc]
    congr 1
    by_cases htype : entry.1 = type <;> simp [htype]

theorem operatorsIn_foldl_setOperators (table : List (FieldType × List Operator)) (type : FieldType) :
    operatorsIn (table.foldl setOperators []) type = (lastRow? table type).getD [] := by
  rw [operatorsIn, find?_foldl_setOperators, List.find?_nil, Option.or_none]
  rfl

/-! ## Catalogues -/

variable {v : Value} {fields : List Field} {c : Catalogue}

/-- The entries define fields and rows of operators. -/
structure DefinedBy (es : List (Value × Value)) (fields : List Field) (table : List (FieldType × List Operator)) :
    Prop where
  fields : IsPresent es "fields" (Enumerates Field.StandsFor · fields)
  table : EntryOr (Tabulates (fun v type => v.Spells type.name) (Enumerates fun v operator => v.Spells operator.name)) es
    "operators_by_type" standardOperators table

/-- The data stands for the fields and the rows of operators: every key has characters, and all types and operators are
known ones. -/
def StandsFor (v : Value) (fields : List Field) (table : List (FieldType × List Operator)) : Prop :=
  ∃ es, v = .mapping es ∧ DefinedBy es fields table

/-- The data of fields and rows of operators. -/
def encode (fields : List Field) (table : List (FieldType × List Operator)) : Value :=
  .ofFields [("fields", .collection .list (fields.map Field.encode)),
    ("operators_by_type", .ofFields (table.map fun row =>
      (row.1.name, .collection .list (row.2.map fun operator => .text operator.name))))]

/-- There is data for all fields whose keys have characters, and for all rows of operators. -/
theorem standsFor_encode (hkeys : ∀ f ∈ fields, f.key ≠ "") (table : List (FieldType × List Operator)) :
    StandsFor (encode fields table) fields table := by
  refine ⟨_, rfl, ⟨_, rfl, .list, _, rfl, ?_⟩, .inl ⟨_, rfl, _, rfl, ?_⟩⟩
  · rw [List.forall₂_map_left_iff, List.forall₂_same]
    exact fun f hf => Field.standsFor_encode (hkeys f hf)
  · rw [List.map_map, List.forall₂_map_left_iff, List.forall₂_same]
    exact fun row _ => ⟨.inl rfl, enumerates_map (fun _ => .inl rfl) row.2⟩

theorem table_reads : Reads
    (Schema.table (name FieldType.named?) keyText (sequence .notATuple (name Operator.named?)))
    (Tabulates (fun v type => v.Spells type.name) (Enumerates fun v operator => v.Spells operator.name)) :=
  Field.type_reads.table _ ((name_reads fun _ _ => Operator.named?_eq_some).sequence _)

theorem StandsFor.unique {fields' : List Field} {table' : List (FieldType × List Operator)}
    (h : StandsFor v fields table) (h' : StandsFor v fields' table') : fields = fields' ∧ table = table' := by
  obtain ⟨es, rfl, h⟩ := h
  obtain ⟨es', heq, h'⟩ := h'
  cases heq
  obtain ⟨items, hitems, hfields⟩ := h.fields
  obtain ⟨items', hitems', hfields'⟩ := h'.fields
  cases hitems.symm.trans hitems'
  have hunique : ∀ v f g, Field.StandsFor v f → Field.StandsFor v g → f = g := fun _ _ _ => Field.StandsFor.unique
  exact ⟨hfields.unique hunique hfields', table_reads.entryOr_unique h.table h'.table⟩

theorem build_eq_ok : build fields table = .ok c ↔ c.fields = fields ∧ c.operators = table := by
  unfold build
  split_ifs with hwell
  · rw [Except.ok.injEq]
    constructor
    · rintro rfl
      exact ⟨rfl, rfl⟩
    · rintro ⟨rfl, rfl⟩
      rfl
  · refine iff_of_false (by simp) ?_
    rintro ⟨rfl, rfl⟩
    exact hwell c.wellFormed

/-- A catalogue is read exactly from the data that stands for its fields and for rows that make up its table. -/
theorem check_eq_ok :
    check v = .ok c ↔ ∃ table, StandsFor v c.fields table ∧ c.operators = table.foldl setOperators [] := by
  unfold check StandsFor
  simp only [bind_eq_ok, entries_eq_ok, Checked.both_eq_ok, (Field.check_reads.sequence _).required,
    table_reads.withDefault, Schema.obeying_eq_ok, build_eq_ok, enumerates_and_iff]
  constructor
  · rintro ⟨es, rfl, ⟨fields, table⟩, ⟨⟨items, hitems, hfields, -⟩, htable⟩, rfl, hoperators⟩
    exact ⟨table, ⟨es, rfl, ⟨items, hitems, hfields⟩, htable⟩, hoperators⟩
  · rintro ⟨table, ⟨es, rfl, ⟨items, hitems, hfields⟩, htable⟩, hoperators⟩
    exact ⟨es, rfl, (c.fields, table), ⟨⟨items, hitems, hfields, c.wellFormed.optionsFit⟩, htable⟩, rfl, hoperators⟩

theorem check_eq_ok_of_standsFor (h : StandsFor v fields table) :
    check v = .ok c ↔ c.fields = fields ∧ c.operators = table.foldl setOperators [] := by
  rw [check_eq_ok]
  constructor
  · rintro ⟨table', h', hoperators⟩
    obtain ⟨rfl, rfl⟩ := h.unique h'
    exact ⟨rfl, hoperators⟩
  · rintro ⟨rfl, hoperators⟩
    exact ⟨table, h, hoperators⟩

/-- Well-typed data is accepted exactly if it stands for at least one field, no two fields have one key, the choices of
every field fit its type, and there are operators for every type. -/
theorem exists_check_iff (h : StandsFor v fields table) :
    (∃ c, check v = .ok c) ↔
      fields ≠ [] ∧ (fields.map (·.key)).Nodup ∧ (∀ f ∈ fields, f.OptionsFit) ∧
        ∀ type, ∃ operator operators, lastRow? table type = some (operator :: operators) := by
  have hrows : ∀ type, operatorsIn (table.foldl setOperators []) type ≠ [] ↔
      ∃ operator operators, lastRow? table type = some (operator :: operators) := by
    intro type
    rw [operatorsIn_foldl_setOperators]
    rcases lastRow? table type with _ | _ | ⟨operator, operators⟩ <;> simp
  simp only [check_eq_ok_of_standsFor h, ← hrows]
  constructor
  · rintro ⟨c, rfl, hoperators⟩
    have hwell := c.wellFormed
    rw [hoperators] at hwell
    exact ⟨hwell.nonempty, hwell.keys_nodup, hwell.optionsFit, fun type => hwell.operators type (mem_all type)⟩
  · rintro ⟨hnonempty, hkeys, hfit, hoperators⟩
    exact ⟨⟨fields, table.foldl setOperators [], hnonempty, hkeys, hfit, fun type _ => hoperators type⟩, rfl, rfl⟩

end Catalogue

end Segmentation
