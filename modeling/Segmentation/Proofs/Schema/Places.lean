import Segmentation.Proofs.Json.Data

/-!
# Problems and their places

* `Checked.Finds`: data fits if no place in it is bad, and otherwise its problems lie exactly at the bad places.
* `Checked.Finds.under`, `Checked.Finds.both`: how parts are put together, so that no problem hides another.
* `Schema.required_finds`, `Schema.withDefault_finds`: entries that must be there, and entries that may be missing.
* `finds_entry`, `Checked.Finds.cons`: lists, each of whose members has bad places of its own.
-/

namespace Segmentation

namespace Value

/-- The value is text. -/
def IsText (v : Value) : Prop :=
  ∃ s, v = text s

/-- The value is a list. -/
def IsList (v : Value) : Prop :=
  ∃ items, v = collection .list items

/-- An entry fits if it is missing or its value does. -/
def IfPresent (es : List (Value × Value)) (key : String) (fits : Value → Prop) : Prop :=
  ∀ v, valueUnder? es key = some v → fits v

/-- An entry fits if it is there and its value does. -/
def IsPresent (es : List (Value × Value)) (key : String) (fits : Value → Prop) : Prop :=
  ∃ v, valueUnder? es key = some v ∧ fits v

theorem valueUnder?_cons (k v : Value) (es : List (Value × Value)) (key : String) :
    valueUnder? ((k, v) :: es) key = (valueUnder? es key).or (match k with
      | .text s => if s = key then some v else none
      | _ => none) := by
  unfold valueUnder?
  rw [List.findRev?_eq_find?_reverse, List.findRev?_eq_find?_reverse, List.reverse_cons, List.find?_append,
    Option.map_or]
  congr 1
  cases k with
  | text s => by_cases hs : s = key <;> simp [hs]
  | _ => rfl

theorem sizeOf_lt_of_valueUnder? {es : List (Value × Value)} {key : String} {v : Value}
    (h : valueUnder? es key = some v) : sizeOf v < sizeOf es := by
  obtain ⟨⟨k, w⟩, he, rfl⟩ := Option.map_eq_some_iff.1 h
  rw [List.findRev?_eq_find?_reverse] at he
  have hlt := List.sizeOf_lt_of_mem (List.mem_reverse.1 (List.mem_of_find?_eq_some he))
  rw [Prod.mk.sizeOf_spec] at hlt
  dsimp only
  omega

end Value

open Value

/-! ## Problems at the bad places -/

namespace Checked

variable {α β : Type}

/-- The data fits if no place is bad; otherwise the places of its problems are the bad ones. -/
def Finds (bad : List String → Prop) : Checked α → Prop
  | .ok _ => ∀ place, ¬ bad place
  | .error ps => ps ≠ [] ∧ ∀ place, (∃ p ∈ ps, p.place = place) ↔ bad place

variable {bad bad' : List String → Prop} {x : Checked α} {y : Checked β}

theorem Finds.congr (h : Finds bad x) (hbad : ∀ place, bad place ↔ bad' place) : Finds bad' x := by
  have heq : bad = bad' := funext fun place => propext (hbad place)
  rwa [← heq]

theorem finds_misfit (m : Misfit) : Finds (· = []) (misfit m : Checked α) := by
  refine ⟨List.cons_ne_nil _ _, fun place => ?_⟩
  simp [eq_comm]

theorem Finds.map (h : Finds bad x) (f : α → β) : Finds bad (x.map f) := by
  cases x with
  | ok a => exact h
  | error ps => exact h

theorem Finds.under (h : Finds bad x) (part : String) :
    Finds (fun place => ∃ rest, place = part :: rest ∧ bad rest) (x.under part) := by
  cases x with
  | ok a => exact fun place ⟨rest, _, hrest⟩ => h rest hrest
  | error ps =>
    refine ⟨by simpa using h.1, fun place => ?_⟩
    constructor
    · rintro ⟨q, hq, rfl⟩
      obtain ⟨p, hp, rfl⟩ := List.mem_map.1 hq
      exact ⟨p.place, rfl, (h.2 _).1 ⟨p, hp, rfl⟩⟩
    · rintro ⟨rest, rfl, hrest⟩
      obtain ⟨p, hp, rfl⟩ := (h.2 rest).2 hrest
      exact ⟨_, List.mem_map.2 ⟨p, hp, rfl⟩, rfl⟩

/-- The problems of both parts are kept, so that none hides another. -/
theorem Finds.both (hx : Finds bad x) (hy : Finds bad' y) :
    Finds (fun place => bad place ∨ bad' place) (both x y) := by
  cases x with
  | ok a =>
    cases y with
    | ok b => exact fun place h => h.elim (hx place) (hy place)
    | error qs =>
      refine ⟨hy.1, fun place => ?_⟩
      rw [hy.2]
      exact (or_iff_right (hx place)).symm
  | error ps =>
    cases y with
    | ok b =>
      refine ⟨hx.1, fun place => ?_⟩
      rw [hx.2]
      exact (or_iff_left (hy place)).symm
    | error qs =>
      refine ⟨by simpa using fun h => absurd h hx.1, fun place => ?_⟩
      simp only [List.mem_append, or_and_right, exists_or, hx.2, hy.2]

/-- Data that is good as a whole or bad at its own place. -/
def Decides (good : Prop) (x : Checked α) : Prop :=
  Finds (fun place => place = [] ∧ ¬ good) x

theorem decides_ok {good : Prop} (h : good) (a : α) : Decides good (.ok a) :=
  fun _ hbad => hbad.2 h

theorem decides_misfit {good : Prop} (h : ¬ good) (m : Misfit) : Decides good (misfit m : Checked α) :=
  (finds_misfit m).congr fun _ => (and_iff_left h).symm

/-- What is bad at its own place is bad under the name of its part. -/
theorem Decides.under {good : Prop} (h : Decides good x) (part : String) :
    Finds (fun place => place = [part] ∧ ¬ good) (Checked.under part x) := by
  refine (Finds.under h part).congr fun place => ?_
  constructor
  · rintro ⟨rest, rfl, rfl, hnot⟩
    exact ⟨rfl, hnot⟩
  · rintro ⟨rfl, hnot⟩
    exact ⟨[], rfl, rfl, hnot⟩

end Checked

namespace Schema

open Checked

variable {α : Type} {es : List (Value × Value)} {key : String} {kind : Value → Checked α} {good : Value → Prop}

/-- An entry that must be there is bad at its place unless it is there and good. -/
theorem required_finds (hkind : ∀ v, valueUnder? es key = some v → Decides (good v) (kind v)) :
    Finds (fun place => place = [key] ∧ ¬ IsPresent es key good) (required es key kind) := by
  unfold required IsPresent
  cases hfound : valueUnder? es key with
  | none =>
    refine ((finds_misfit .missing).under key).congr fun place => ?_
    simp
  | some v =>
    refine ((hkind v hfound).under key).congr fun place => ?_
    simp only [Option.some.injEq, exists_eq_left']

/-- An entry that may be missing is bad at its place if it is there and not good. -/
theorem withDefault_finds (hkind : ∀ v, valueUnder? es key = some v → Decides (good v) (kind v))
    (default : α) :
    Finds (fun place => place = [key] ∧ ¬ IfPresent es key good) (withDefault es key default kind) := by
  unfold withDefault IfPresent
  cases hfound : valueUnder? es key with
  | none => exact fun place hbad => hbad.2 fun v hv => by cases hv
  | some v =>
    refine ((hkind v hfound).under key).congr fun place => ?_
    simp only [Option.some.injEq, forall_eq']

theorem text_decides {v : Value} (hv : v.IsJson) : Decides v.IsText (text v) := by
  cases v with
  | text s => exact decides_ok ⟨s, rfl⟩ s
  | bytes bs => exact hv.elim
  | _ => exact decides_misfit (fun ⟨s, hs⟩ => by cases hs) _

end Schema

open Checked

/-! ## Lists -/

/-- The bad places of members, each under the index of its member, counted from `start`. -/
def Value.BadFrom (bad : Value → List String → Prop) (start : Nat) (items : List Value)
    (place : List String) : Prop :=
  ∃ (i : Nat) (item : Value) (rest : List String),
    items[i]? = some item ∧ place = toString (start + i) :: rest ∧ bad item rest

/-- The bad places of a value that should be a list: its own, or those of its members. -/
def Value.BadInList (bad : Value → List String → Prop) (v : Value) (place : List String) : Prop :=
  (place = [] ∧ ¬ v.IsList) ∨ ∃ items, v = .collection .list items ∧ BadFrom bad 0 items place

/-- The bad places of an entry that should hold a list, if it is there. -/
def Value.BadUnder (bad : Value → List String → Prop) (es : List (Value × Value)) (key : String)
    (place : List String) : Prop :=
  ∃ v rest, valueUnder? es key = some v ∧ place = key :: rest ∧ BadInList bad v rest

section Lists

variable {α : Type} {bad : Value → List String → Prop}

theorem badFrom_cons {start : Nat} {v : Value} {vs : List Value} {place : List String} :
    BadFrom bad start (v :: vs) place ↔
      (∃ rest, place = toString start :: rest ∧ bad v rest) ∨ BadFrom bad (start + 1) vs place := by
  constructor
  · rintro ⟨i, item, rest, hitem, rfl, hbad⟩
    cases i with
    | zero =>
      cases hitem
      exact .inl ⟨rest, rfl, hbad⟩
    | succ i => exact .inr ⟨i, item, rest, hitem, by rw [Nat.add_right_comm, Nat.add_assoc], hbad⟩
  · rintro (⟨rest, rfl, hbad⟩ | ⟨i, item, rest, hitem, rfl, hbad⟩)
    · exact ⟨0, v, rest, rfl, rfl, hbad⟩
    · exact ⟨i + 1, item, rest, hitem, by rw [Nat.add_right_comm, Nat.add_assoc], hbad⟩

/-- What is found in the first member and in the others is found in all of them. -/
theorem Checked.Finds.cons {v : Value} {vs : List Value} {start : Nat} {x : Checked α}
    {xs : Checked (List α)} (hx : Finds (bad v) x) (hxs : Finds (BadFrom bad (start + 1) vs) xs) :
    Finds (BadFrom bad start (v :: vs))
      ((Checked.both (x.under (toString start)) xs).map fun (a, as) => a :: as) :=
  (((hx.under _).both hxs).map _).congr fun _ => badFrom_cons.symm

theorem finds_nil {start : Nat} : Finds (BadFrom bad start []) (.ok ([] : List α)) := by
  rintro place ⟨i, item, rest, hitem, -⟩
  cases hitem

theorem finds_list {items : List Value} {xs : Checked (List α)} (h : Finds (BadFrom bad 0 items) xs) :
    Finds (BadInList bad (.collection .list items)) xs := by
  refine h.congr fun place => ?_
  constructor
  · intro hbad
    exact .inr ⟨items, rfl, hbad⟩
  · rintro (⟨-, hnot⟩ | ⟨items', heq, hbad⟩)
    · exact absurd ⟨items, rfl⟩ hnot
    · cases heq
      exact hbad

theorem finds_noList {v : Value} (hv : ¬ v.IsList) :
    Finds (BadInList bad v) (Checked.misfit .notATuple : Checked (List α)) := by
  refine (finds_misfit .notATuple).congr fun place => ?_
  constructor
  · rintro rfl
    exact .inl ⟨rfl, hv⟩
  · rintro (⟨hplace, -⟩ | ⟨items, heq, -⟩)
    · exact hplace
    · exact absurd ⟨items, heq⟩ hv

/-- What is found in the value of an entry is found under its key. -/
theorem finds_entry {es : List (Value × Value)} {key : String} {v : Value} {xs : Checked (List α)}
    (hfound : valueUnder? es key = some v) (hxs : Finds (BadInList bad v) xs) :
    Finds (BadUnder bad es key) (Checked.under key xs) := by
  refine (hxs.under key).congr fun place => ?_
  constructor
  · rintro ⟨rest, hplace, hbad⟩
    exact ⟨v, rest, hfound, hplace, hbad⟩
  · rintro ⟨w, rest, hw, hplace, hbad⟩
    cases hfound.symm.trans hw
    exact ⟨rest, hplace, hbad⟩

theorem finds_absent {es : List (Value × Value)} {key : String} (hfound : valueUnder? es key = none) :
    Finds (BadUnder bad es key) (Checked.under key (.ok ([] : List α))) := by
  rintro place ⟨v, rest, hv, -⟩
  cases hfound.symm.trans hv

end Lists

end Segmentation
