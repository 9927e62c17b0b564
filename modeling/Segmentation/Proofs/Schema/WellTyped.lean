import Mathlib.Data.List.Forall2
import Segmentation.Proofs.Outcome
import Segmentation.Proofs.Schema.Places

/-!
# Well-typed data

* `Value.Spells`, `Value.Enumerates`, `Value.Optionally`, `Value.Tabulates`: what text, a sequence, a value that may be
  missing and a mapping stand for.
* `Value.EntryOr`: what an entry stands for that may be left out.
* `Value.enumerates_and_iff`, `Value.Enumerates.unique`: a sequence stands for as much as its members do.
* `Schema.Reads`: a check that finds in data exactly what the data stands for.
* `Schema.text_reads`, `Schema.name_reads`, `Schema.Reads.sequence`, `Schema.Reads.table`: the building blocks of schemas
  are such checks if their parts are.
-/

namespace Segmentation

variable {α β : Type}

namespace Value

/-- The value is the text, as it stands or as its bytes in UTF-8. -/
def Spells (v : Value) (s : String) : Prop :=
  v = text s ∨ ∃ bs, v = bytes bs ∧ String.fromUTF8? ⟨bs.toArray⟩ = some s

/-- The value is a collection whose members stand for those of the list, one by one. -/
def Enumerates (R : Value → α → Prop) (v : Value) (as : List α) : Prop :=
  ∃ kind items, v = collection kind items ∧ List.Forall₂ R items as

/-- No value stands for nothing, and any other value for something. -/
def Optionally (R : Value → α → Prop) (v : Value) : Option α → Prop
  | none => v = null
  | some a => v ≠ null ∧ R v a

/-- The value is a mapping whose entries stand for the rows, one by one. -/
def Tabulates (K : Value → α → Prop) (R : Value → β → Prop) (v : Value) (rows : List (α × β)) : Prop :=
  ∃ es, v = mapping es ∧ List.Forall₂ (fun e row => K e.1 row.1 ∧ R e.2 row.2) es rows

/-- The entry stands for this, or it is left out and this is its default. -/
def EntryOr (R : Value → α → Prop) (es : List (Value × Value)) (key : String) (default a : α) : Prop :=
  (∃ v, valueUnder? es key = some v ∧ R v a) ∨ (valueUnder? es key = none ∧ default = a)

theorem enumerates_map {R : Value → α → Prop} {f : α → Value} (h : ∀ a, R (f a) a) (as : List α) :
    Enumerates R (collection .list (as.map f)) as := by
  refine ⟨.list, _, rfl, ?_⟩
  rw [List.forall₂_map_left_iff, List.forall₂_same]
  exact fun a _ => h a

/-- A condition on what the members stand for is one on the members of the list. -/
theorem enumerates_and_iff {R : Value → α → Prop} {p : α → Prop} {v : Value} {as : List α} :
    Enumerates (fun v a => R v a ∧ p a) v as ↔ Enumerates R v as ∧ ∀ a ∈ as, p a := by
  have hmembers : ∀ items, List.Forall₂ (fun v a => R v a ∧ p a) items as ↔
      List.Forall₂ R items as ∧ ∀ a ∈ as, p a := by
    induction as with
    | nil => simp
    | cons a as ih =>
      intro items
      simp only [List.forall₂_cons_right_iff, ih, List.forall_mem_cons]
      constructor
      · rintro ⟨v, rest, ⟨hv, ha⟩, ⟨hrest, has⟩, rfl⟩
        exact ⟨⟨v, rest, hv, hrest, rfl⟩, ha, has⟩
      · rintro ⟨⟨v, rest, hv, hrest, rfl⟩, ha, has⟩
        exact ⟨v, rest, ⟨hv, ha⟩, ⟨hrest, has⟩, rfl⟩
  simp only [Enumerates, hmembers]
  constructor
  · rintro ⟨kind, items, rfl, hitems, has⟩
    exact ⟨⟨kind, items, rfl, hitems⟩, has⟩
  · rintro ⟨⟨kind, items, rfl, hitems⟩, has⟩
    exact ⟨kind, items, rfl, hitems, has⟩

theorem Enumerates.unique {R : Value → α → Prop} {v : Value} {as bs : List α} (ha : Enumerates R v as)
    (h : ∀ v a b, R v a → R v b → a = b) (hb : Enumerates R v bs) : as = bs := by
  obtain ⟨kind, items, rfl, ha⟩ := ha
  obtain ⟨kind', items', heq, hb⟩ := hb
  cases heq
  exact List.right_unique_forall₂' (fun v a b => h v a b) ha hb

end Value

/-! ## Enumerates of checks -/

namespace Checked

theorem cons_eq_ok {x : Checked α} {xs : Checked (List α)} {as : List α} :
    ((both x xs).map fun (a, rest) => a :: rest) = .ok as ↔ ∃ a rest, x = .ok a ∧ xs = .ok rest ∧ as = a :: rest := by
  simp only [map_eq_ok, both_eq_ok]
  constructor
  · rintro ⟨⟨a, rest⟩, ⟨ha, hrest⟩, rfl⟩
    exact ⟨a, rest, ha, hrest, rfl⟩
  · rintro ⟨a, rest, ha, hrest, rfl⟩
    exact ⟨(a, rest), ⟨ha, hrest⟩, rfl⟩

theorem nil_eq_ok {as : List α} : (.ok [] : Checked (List α)) = .ok as ↔ as = [] := by
  rw [Except.ok.injEq, eq_comm]

theorem indexed_eq_ok {xs : List (Checked α)} {as : List α} {start : Nat} :
    indexed start xs = .ok as ↔ List.Forall₂ (fun x a => x = .ok a) xs as := by
  induction xs generalizing as start with
  | nil => rw [indexed, nil_eq_ok, List.forall₂_nil_left_iff]
  | cons x xs ih =>
    rw [indexed, cons_eq_ok, List.forall₂_cons_left_iff]
    simp only [under_eq_ok, ih]

theorem all_eq_ok {xs : List (Checked α)} {as : List α} :
    all xs = .ok as ↔ List.Forall₂ (fun x a => x = .ok a) xs as := by
  induction xs generalizing as with
  | nil => rw [all, nil_eq_ok, List.forall₂_nil_left_iff]
  | cons x xs ih =>
    rw [all, cons_eq_ok, List.forall₂_cons_left_iff]
    simp only [ih]

end Checked

/-! ## Checks that find what data stands for -/

namespace Schema

open Value

/-- The check finds in data exactly what the data stands for. -/
def Reads (kind : Value → Checked α) (R : Value → α → Prop) : Prop :=
  ∀ v a, kind v = .ok a ↔ R v a

variable {kind : Value → Checked α} {R : Value → α → Prop}

theorem text_reads : Reads text Spells := by
  intro v s
  unfold Spells
  cases v with
  | text t => simp [text]
  | bytes bs =>
    simp only [text, reduceCtorEq, false_or, Value.bytes.injEq, exists_eq_left']
    cases String.fromUTF8? ⟨bs.toArray⟩ <;> simp [Checked.misfit]
  | _ => simp [text, Checked.misfit]

theorem nonEmptyText_reads : Reads nonEmptyText fun v s => v.Spells s ∧ s ≠ "" := by
  intro v s
  rw [nonEmptyText, bind_eq_ok]
  simp only [text_reads _ _]
  constructor
  · rintro ⟨t, ht, h⟩
    split at h
    · cases h
    · cases h
      exact ⟨ht, ‹_›⟩
  · rintro ⟨hs, hne⟩
    exact ⟨s, hs, if_neg hne⟩

theorem name_reads {named? : String → Option α} {nameOf : α → String}
    (h : ∀ s a, named? s = some a ↔ nameOf a = s) : Reads (name named?) fun v a => v.Spells (nameOf a) := by
  intro v a
  change _ ↔ v.Spells (nameOf a)
  rw [← text_reads]
  unfold name
  cases htext : text v with
  | error ps => simp [Checked.misfit]
  | ok s =>
    simp only [Except.ok.injEq, eq_comm (a := s), ← h]
    cases named? s <;> simp [Checked.misfit]

theorem Reads.sequence (h : Reads kind R) (otherwise : Misfit) : Reads (sequence otherwise kind) (Enumerates R) := by
  intro v as
  unfold Enumerates
  cases v with
  | collection c items =>
    simp only [Schema.sequence, Checked.indexed_eq_ok, List.forall₂_map_left_iff, h _ _, Value.collection.injEq]
    simp
  | _ => simp [Schema.sequence, Checked.misfit]

theorem Reads.optional (h : Reads kind R) : Reads (optional kind) (Optionally R) := by
  intro v o
  cases v with
  | null => cases o <;> simp [Schema.optional, Optionally]
  | _ => cases o <;> simp [Schema.optional, Optionally, map_eq_ok, h _ _]

theorem Reads.table {key : Value → Checked β} {K : Value → β → Prop} (hkey : Reads key K) (keyText : Value → String)
    (h : Reads kind R) : Reads (table key keyText kind) (Tabulates K R) := by
  intro v rows
  unfold Tabulates
  cases v with
  | mapping es =>
    simp only [Schema.table, Checked.all_eq_ok, List.forall₂_map_left_iff, Checked.under_eq_ok, Checked.both_eq_ok,
      hkey _ _, h _ _, Value.mapping.injEq, exists_eq_left']
  | _ => simp [Schema.table, Checked.misfit]

theorem Reads.required (h : Reads kind R) {es : List (Value × Value)} {key : String} {a : α} :
    required es key kind = .ok a ↔ IsPresent es key (R · a) := by
  simp only [required_eq_ok, h _ _, IsPresent]

theorem Reads.withDefault (h : Reads kind R) {es : List (Value × Value)} {key : String} {default a : α} :
    withDefault es key default kind = .ok a ↔ EntryOr R es key default a := by
  simp only [withDefault_eq_ok, h _ _, EntryOr]

theorem Reads.entry_unique (h : Reads kind R) {es : List (Value × Value)} {key : String} {a b : α}
    (ha : IsPresent es key (R · a)) (hb : IsPresent es key (R · b)) : a = b :=
  Except.ok.inj ((h.required.2 ha).symm.trans (h.required.2 hb))

theorem Reads.entryOr_unique (h : Reads kind R) {es : List (Value × Value)} {key : String} {default a b : α}
    (ha : EntryOr R es key default a) (hb : EntryOr R es key default b) : a = b :=
  Except.ok.inj ((h.withDefault.2 ha).symm.trans (h.withDefault.2 hb))

theorem entries_eq_ok {v : Value} {es : List (Value × Value)} : entries v = .ok es ↔ v = .mapping es := by
  cases v <;> simp [entries, Checked.misfit]

theorem obeying_eq_ok {x : Except BrokenRule α} {a : α} : obeying x = .ok a ↔ x = .ok a := by
  cases x <;> simp [obeying, Checked.misfit]

end Schema

end Segmentation
