import Segmentation.Proofs.Number.Digits
import Segmentation.Proofs.Outcome
import Segmentation.Value.Lookup
import Segmentation.Value.Reading

/-!
# Values with a text

* `Value.HasText`: no integer in the value is too long to be written.
* `Value.HasText.members`, `Value.HasText.resolve`: parts of such a value are such values.
* `Value.HasText.comparisonText`: such a value can be compared.
-/

namespace Segmentation

open Calendar

theorem Integer.exists_text {n : Int} (hn : HasText n) : ∃ s, text n = .ok s := by
  unfold text
  split
  · exact ⟨_, rfl⟩
  · rename_i hnone
    unfold text? at hnone
    split at hnone
    · cases hnone
    · rename_i hlong
      exact absurd hn hlong

theorem Integer.exists_text_iff {n : Int} : (∃ s, text n = .ok s) ↔ HasText n := by
  refine ⟨fun ⟨s, hs⟩ => ?_, exists_text⟩
  unfold text text? at hs
  by_contra htext
  rw [if_neg htext] at hs
  cases hs

namespace Value

/-- The value can be written as text: no integer in it is too long. -/
def HasText (v : Value) : Prop :=
  ∃ s, v.toText = .ok s

theorem hasText_of_form {v : Value} {s : String} (h : v.form = .ok s) : v.HasText := by
  cases v with
  | text s => exact ⟨s, rfl⟩
  | decimal d => exact ⟨_, rfl⟩
  | date d => exact ⟨_, rfl⟩
  | datetime d => exact ⟨_, rfl⟩
  | _ => exact ⟨s, h⟩

theorem hasText_of_forms {vs : List Value} {ss : List String} (h : forms vs = .ok ss) :
    ∀ v ∈ vs, v.HasText := by
  induction vs generalizing ss with
  | nil => intro v hv; cases hv
  | cons v vs ih =>
    rw [forms] at h
    obtain ⟨s, hs, h⟩ := bind_eq_ok.1 h
    obtain ⟨rest, hrest, -⟩ := bind_eq_ok.1 h
    exact List.forall_mem_cons.2 ⟨hasText_of_form hs, ih hrest⟩

theorem hasText_int_iff {n : Int} : (int n).HasText ↔ Integer.HasText n := by
  rw [HasText, ← Integer.exists_text_iff]
  rfl

/-- A list with the least integer that is too long. -/
def longList : Value :=
  collection .list [int (Nat.pow 10 Integer.maxDigits)]

theorem not_hasText_longest : ¬ Integer.HasText (Nat.pow 10 Integer.maxDigits) := by
  rw [Integer.HasText, Int.natAbs_natCast]
  exact Nat.lt_irrefl _

theorem hasText_int {n : Nat} (hn : n < 1000000) : (int n).HasText := by
  have habs : (n : Int).natAbs < 1000000 := by omega
  have hshort : Integer.HasText n := Nat.lt_of_lt_of_le habs (by decide +kernel)
  exact hasText_int_iff.2 hshort

/-- The members of a value that has a text have one each. -/
theorem HasText.members {v : Value} (hv : v.HasText) : ∀ m ∈ v.members, m.HasText := by
  cases v with
  | collection kind items =>
    obtain ⟨s, hs⟩ := hv
    obtain ⟨ss, hss, -⟩ := bind_eq_ok.1 hs
    exact hasText_of_forms hss
  | null => intro m hm; cases hm
  | text s =>
    intro m hm
    rw [Value.members] at hm
    split at hm
    · cases hm
    · rw [List.mem_singleton.1 hm]
      exact hv
  | _ =>
    intro m hm
    rw [List.mem_singleton.1 hm]
    exact hv

theorem HasText.comparisonText {v : Value} (hv : v.HasText) : ∃ s, v.comparisonText = .ok s := by
  cases v with
  | null => exact ⟨_, rfl⟩
  | bool b => exact ⟨_, rfl⟩
  | float x =>
    rw [Value.comparisonText]
    split
    · exact Integer.exists_text x.hasText_truncate
    · exact hv
  | _ => exact hv

theorem HasText.foldedText {v : Value} (hv : v.HasText) : ∃ s, v.foldedText = .ok s := by
  obtain ⟨s, hs⟩ := hv.comparisonText
  exact ⟨Text.lower s, by rw [Value.foldedText, hs]; rfl⟩

/-! ## Fields -/

theorem hasText_of_entryForms {entries : List (Value × Value)} {ss : List String}
    (h : entryForms entries = .ok ss) : ∀ e ∈ entries, e.2.HasText := by
  induction entries generalizing ss with
  | nil => intro e he; cases he
  | cons e entries ih =>
    obtain ⟨k, v⟩ := e
    rw [entryForms] at h
    obtain ⟨_, -, h⟩ := bind_eq_ok.1 h
    obtain ⟨s, hs, h⟩ := bind_eq_ok.1 h
    obtain ⟨rest, hrest, -⟩ := bind_eq_ok.1 h
    exact List.forall_mem_cons.2 ⟨hasText_of_form hs, ih hrest⟩

theorem hasText_of_fieldForms {fields : List (String × Value)} {ss : List String}
    (h : fieldForms fields = .ok ss) : ∀ f ∈ fields, f.2.HasText := by
  induction fields generalizing ss with
  | nil => intro f hf; cases hf
  | cons f fields ih =>
    obtain ⟨k, v⟩ := f
    rw [fieldForms] at h
    obtain ⟨s, hs, h⟩ := bind_eq_ok.1 h
    obtain ⟨rest, hrest, -⟩ := bind_eq_ok.1 h
    exact List.forall_mem_cons.2 ⟨hasText_of_form hs, ih hrest⟩

theorem hasText_null : null.HasText :=
  ⟨_, rfl⟩

theorem hasText_getD {v? : Option Value} (h : ∀ v ∈ v?, v.HasText) : (v?.getD null).HasText := by
  cases v? with
  | none => exact hasText_null
  | some v => exact h v rfl

theorem hasText_datePart (d : Date) (name : String) : (datePart d name).HasText := by
  obtain ⟨-, hyear, -, hmonth, -, hday⟩ := d.isDay
  have hdays := daysInMonth_le d.year d.month
  unfold datePart
  split
  · exact hasText_int (by omega)
  split
  · exact hasText_int (by omega)
  split
  · exact hasText_int (by omega)
  · exact hasText_null

theorem hasText_dateTimePart (d : DateTime) (name : String) : (dateTimePart d name).HasText := by
  have htime : d.time < 86400000000 := d.time_lt
  unfold dateTimePart
  dsimp only [microsPerSecond]
  split
  · exact hasText_int (by omega)
  split
  · exact hasText_int (by omega)
  split
  · exact hasText_int (by omega)
  split
  · exact hasText_int (by omega)
  split
  · exact hasText_int (n := 0) (by decide)
  · exact hasText_datePart d.date name

theorem hasText_decimalPart (d : Decimal) (name : String) : (decimalPart d name).HasText := by
  unfold decimalPart
  split
  · exact ⟨_, rfl⟩
  split
  · exact ⟨_, rfl⟩
  · exact hasText_null

/-- What a value that has a text holds under a name has one as well. -/
theorem HasText.lookup {v : Value} (hv : v.HasText) (key : String) : (v.lookup key).HasText := by
  cases v with
  | mapping entries =>
    obtain ⟨s, hs⟩ := hv
    obtain ⟨ss, hss, -⟩ := bind_eq_ok.1 hs
    refine hasText_getD fun v hv => ?_
    obtain ⟨e, he, rfl⟩ := Option.map_eq_some_iff.1 hv
    rw [List.findRev?_eq_find?_reverse] at he
    exact hasText_of_entryForms hss e (List.mem_reverse.1 (List.mem_of_find?_eq_some he))
  | record fields =>
    obtain ⟨s, hs⟩ := hv
    obtain ⟨ss, hss, -⟩ := bind_eq_ok.1 hs
    refine hasText_getD fun v hv => ?_
    obtain ⟨f, hf, rfl⟩ := Option.map_eq_some_iff.1 hv
    exact hasText_of_fieldForms hss f (List.mem_of_find?_eq_some hf)
  | date d => exact hasText_datePart d key
  | datetime d => exact hasText_dateTimePart d key
  | decimal d => exact hasText_decimalPart d key
  | _ => exact hasText_null

theorem HasText.follow {v : Value} (hv : v.HasText) (names : List String) :
    (v.follow names).HasText := by
  induction names generalizing v with
  | nil => exact hv
  | cons name names ih =>
    rw [Value.follow]
    split
    · exact hasText_null
    · exact ih (hv.lookup name)

/-- A record with a single field holds its value there. -/
theorem resolve_record (key : String) {v : Value} (hv : v.isNull = false) :
    (record [(key, v)]).resolve key = v := by
  have hlookup : (record [(key, v)]).lookup key = v := by
    simp [Value.lookup]
  simp [Value.resolve, hlookup, hv]

/-- So do all of its fields. -/
theorem HasText.resolve {v : Value} (hv : v.HasText) (key : String) : (v.resolve key).HasText := by
  unfold Value.resolve
  dsimp only
  split
  · exact hv.follow _
  · exact hv.lookup key

end Value

end Segmentation
