import Segmentation.Schema.Reading

/-!
# Computations that may fail

* `bind_eq_ok`, `exists_bind_eq_ok`, `map_eq_ok`, `toOption_eq_some`: a computation in steps succeeds if each step does.
* `bind_ne_error`: it does not fail in a way in which no step does.
* `mem_of_mapM_eq_ok`, `exists_mapM_eq_ok`, `mapM_eq_ok_iff`: so does a computation for each element of a list.
* `Checked.both_eq_ok`, `Checked.under_eq_ok`: data fits if all of its parts do.
-/

namespace Segmentation

variable {ε α β : Type}

theorem bind_eq_ok {x : Except ε α} {next : α → Except ε β} {b : β} :
    (x >>= next) = .ok b ↔ ∃ a, x = .ok a ∧ next a = .ok b := by
  cases x with
  | error e =>
    constructor
    · intro h
      cases h
    · rintro ⟨a, ha, -⟩
      cases ha
  | ok a =>
    constructor
    · intro h
      exact ⟨a, rfl, h⟩
    · rintro ⟨a', ha, h⟩
      cases ha
      exact h

/-- A computation in steps succeeds if its first step does and the others do whatever came before. -/
theorem exists_bind_eq_ok {x : Except ε α} {next : α → Except ε β} (hx : ∃ a, x = .ok a)
    (hnext : ∀ a, ∃ b, next a = .ok b) : ∃ b, (x >>= next) = .ok b := by
  obtain ⟨a, ha⟩ := hx
  obtain ⟨b, hb⟩ := hnext a
  exact ⟨b, bind_eq_ok.2 ⟨a, ha, hb⟩⟩

/-- A computation in steps does not fail with `e` if none of its steps does. -/
theorem bind_ne_error {e : ε} {x : Except ε α} {next : α → Except ε β} (hx : x ≠ .error e)
    (hnext : ∀ a, next a ≠ .error e) : (x >>= next) ≠ .error e := by
  cases x with
  | error e' => exact fun h => hx (congrArg Except.error (Except.error.inj h))
  | ok a => exact hnext a

theorem map_eq_ok {x : Except ε α} {f : α → β} {b : β} :
    x.map f = .ok b ↔ ∃ a, x = .ok a ∧ f a = b := by
  cases x <;> simp [Except.map]

theorem map_eq_error {x : Except ε α} {f : α → β} {e : ε} : x.map f = .error e ↔ x = .error e := by
  cases x <;> simp [Except.map]

theorem mapError_eq_error {ε' : Type} {x : Except ε α} {f : ε → ε'} {e : ε'} :
    x.mapError f = .error e ↔ ∃ e', x = .error e' ∧ f e' = e := by
  cases x with
  | error e' =>
    constructor
    · intro h
      exact ⟨e', rfl, Except.error.inj h⟩
    · rintro ⟨_, h, rfl⟩
      cases h
      rfl
  | ok a =>
    constructor
    · intro h
      cases h
    · rintro ⟨_, h, -⟩
      cases h

theorem toOption_eq_some {x : Except ε α} {a : α} : x.toOption = some a ↔ x = .ok a := by
  cases x <;> simp [Except.toOption]

/-- A computation for each element succeeds if its results are those of the elements, one after the other. -/
theorem mapM_eq_ok_iff {f : α → Except ε β} {xs : List α} {ys : List β} :
    xs.mapM f = .ok ys ↔ xs.map f = ys.map .ok := by
  induction xs generalizing ys with
  | nil =>
    rw [List.mapM_nil, List.map_nil, eq_comm (a := [])]
    exact ⟨fun h => by cases h; rfl, fun h => by rw [List.map_eq_nil_iff.1 h]; rfl⟩
  | cons x xs ih =>
    rw [List.mapM_cons, List.map_cons, bind_eq_ok]
    constructor
    · rintro ⟨y, hy, h⟩
      obtain ⟨rest, hrest, h⟩ := bind_eq_ok.1 h
      cases h
      rw [hy, ih.1 hrest, List.map_cons]
    · intro h
      cases ys with
      | nil => cases h
      | cons y ys =>
        obtain ⟨hy, hrest⟩ := List.cons_eq_cons.1 h
        exact ⟨y, hy, bind_eq_ok.2 ⟨ys, ih.2 hrest, rfl⟩⟩

/-- The results of a list are those of its elements. -/
theorem mem_of_mapM_eq_ok {f : α → Except ε β} {xs : List α} {ys : List β} (h : xs.mapM f = .ok ys)
    (y : β) : y ∈ ys ↔ ∃ x ∈ xs, f x = .ok y := by
  have hmem : y ∈ ys ↔ (.ok y : Except ε β) ∈ ys.map .ok := by simp
  rw [hmem, ← mapM_eq_ok_iff.1 h, List.mem_map]

theorem length_of_mapM_eq_ok {f : α → Except ε β} {xs : List α} {ys : List β} (h : xs.mapM f = .ok ys) :
    ys.length = xs.length := by
  have hlength := congrArg List.length (mapM_eq_ok_iff.1 h)
  rw [List.length_map, List.length_map] at hlength
  exact hlength.symm

theorem exists_of_mapM_eq_ok {f : α → Except ε β} {xs : List α} {ys : List β} (h : xs.mapM f = .ok ys) :
    ∀ x ∈ xs, ∃ y, f x = .ok y := by
  intro x hx
  have hmem : f x ∈ ys.map .ok := mapM_eq_ok_iff.1 h ▸ List.mem_map_of_mem hx
  obtain ⟨y, -, hy⟩ := List.mem_map.1 hmem
  exact ⟨y, hy.symm⟩

theorem exists_mapM_eq_ok {f : α → Except ε β} {xs : List α} (h : ∀ x ∈ xs, ∃ y, f x = .ok y) :
    ∃ ys, xs.mapM f = .ok ys := by
  induction xs with
  | nil => exact ⟨[], rfl⟩
  | cons x xs ih =>
    rw [List.forall_mem_cons] at h
    obtain ⟨y, hy⟩ := h.1
    obtain ⟨ys, hys⟩ := ih h.2
    refine ⟨y :: ys, ?_⟩
    rw [List.mapM_cons]
    exact bind_eq_ok.2 ⟨y, hy, bind_eq_ok.2 ⟨ys, hys, rfl⟩⟩

namespace Checked

theorem both_eq_ok {x : Checked α} {y : Checked β} {p : α × β} :
    both x y = .ok p ↔ x = .ok p.1 ∧ y = .ok p.2 := by
  obtain ⟨a, b⟩ := p
  cases x <;> cases y <;> simp [both]

theorem under_eq_ok {part : String} {x : Checked α} {a : α} : under part x = .ok a ↔ x = .ok a := by
  cases x <;> simp [under]

end Checked

namespace Schema

variable {es : List (Value × Value)} {key : String} {kind : Value → Checked α} {a : α}

theorem required_eq_ok :
    required es key kind = .ok a ↔ ∃ v, Value.valueUnder? es key = some v ∧ kind v = .ok a := by
  rw [required, Checked.under_eq_ok]
  cases Value.valueUnder? es key <;> simp [Checked.misfit]

theorem withDefault_eq_ok {default : α} :
    withDefault es key default kind = .ok a ↔
      (∃ v, Value.valueUnder? es key = some v ∧ kind v = .ok a) ∨
        (Value.valueUnder? es key = none ∧ default = a) := by
  rw [withDefault]
  cases Value.valueUnder? es key <;> simp [Checked.under_eq_ok]

end Schema

end Segmentation
