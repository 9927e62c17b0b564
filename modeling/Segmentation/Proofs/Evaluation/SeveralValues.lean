import Segmentation.Evaluation.Comparison
import Segmentation.Proofs.Value.Text

/-!
# Operators with several values

Each of them in terms of the operator with one value.

* `Comparison.within_eq_ok`: a range has two bounds.
* `Comparison.isAmong_eq_ok_true`, `Comparison.isAmong_eq_ok_false`: a choice is equality to one value.
* `Comparison.holdsAll_eq_ok`: a set of members is contained one by one.
-/

namespace Segmentation

/-- A blank value has a text as well. -/
theorem Comparison.hasText_stored {type : FieldType} {raw : Value} (hraw : raw.HasText) :
    (stored type raw).HasText := by
  cases raw with
  | null =>
    cases type with
    | number => exact Value.hasText_int (n := 0) (by decide)
    | array => exact ⟨_, rfl⟩
    | boolean => exact ⟨_, rfl⟩
    | string => exact ⟨_, rfl⟩
    | select => exact ⟨_, rfl⟩
    | date => exact ⟨_, rfl⟩
  | _ => exact hraw

/-- A blank value is no moment. -/
theorem Comparison.moment?_stored (type : FieldType) (raw : Value) : (stored type raw).moment? = raw.moment? := by
  cases raw with
  | null => cases type <;> rfl
  | _ => rfl

/-! ## Operands with several values -/

/-- The values that an operand lists; a single one lists itself, and a blank one nothing. -/
def Operand.elements : Operand → List Operand
  | null => []
  | text s => if s = "" then [] else [text s]
  | texts items => items.map text
  | o => [o]

theorem Operand.members_toValue (o : Operand) : o.toValue.members = o.elements.map toValue := by
  cases o with
  | text s =>
    rw [toValue, Value.members, elements]
    split <;> rfl
  | texts items =>
    rw [toValue, Value.members, elements, List.map_map]
    rfl
  | _ => rfl

/-- One of several values has a text only if all of them do: several values are texts. -/
theorem Operand.comparisonText_elements {o x : Operand} (hx : x ∈ o.elements)
    (htext : ∃ s, x.toValue.comparisonText = .ok s) :
    ∀ v ∈ o.elements.map toValue, ∃ s, v.comparisonText = .ok s := by
  cases o with
  | null => cases hx
  | texts items =>
    intro v hv
    obtain ⟨y, hy, rfl⟩ := List.mem_map.1 hv
    obtain ⟨s, -, rfl⟩ := List.mem_map.1 hy
    exact ⟨s, rfl⟩
  | text s =>
    intro v hv
    rw [elements] at hv
    split at hv
    · cases hv
    · rw [List.mem_singleton.1 hv]
      exact ⟨s, rfl⟩
  | _ =>
    intro v hv
    rw [List.mem_singleton.1 hv]
    rwa [List.mem_singleton.1 hx] at htext

namespace Comparison

/-- An answer that is turned round. -/
theorem not_eq_ok {x : Except Failure Bool} {b : Bool} :
    (do return !(← x)) = Except.ok b ↔ x = .ok !b := by
  rw [bind_eq_ok]
  constructor
  · rintro ⟨a, ha, h⟩
    cases h
    rw [ha, Bool.not_not]
  · intro h
    exact ⟨!b, h, by rw [Bool.not_not]; rfl⟩

/-! ### Ranges -/

section Ranges

variable {type : FieldType} {actual expected : Value}

theorem ordered_eq_ok {relation : Int → Int → Bool} :
    ordered type relation actual expected = .ok true ↔
      ∃ a b, rank type actual = .ok (some a) ∧ rank type expected = .ok (some b) ∧
        relation a.position b.position = true := by
  unfold ordered
  rw [bind_eq_ok]
  constructor
  · rintro ⟨left, hleft, h⟩
    obtain ⟨right, hright, h⟩ := bind_eq_ok.1 h
    have h := Except.ok.inj h
    cases left with
    | none => cases h
    | some a =>
      cases right with
      | none => cases h
      | some b => exact ⟨a, b, hleft, hright, h⟩
  · rintro ⟨a, b, hleft, hright, h⟩
    exact ⟨some a, hleft, bind_eq_ok.2 ⟨some b, hright, congrArg Except.ok h⟩⟩

/-- A value lies in a range if it is not below the lower bound and, unless there is none, not above the
upper one. -/
theorem within_eq_ok {high : Operand} :
    within type actual expected high = .ok true ↔
      ordered type (fun a b => b ≤ a) actual expected = .ok true ∧
        (high.isBlank = false → ordered type (fun a b => a ≤ b) actual high.toValue = .ok true) := by
  rw [ordered_eq_ok, ordered_eq_ok]
  unfold within
  rw [bind_eq_ok]
  constructor
  · rintro ⟨value, hvalue, h⟩
    obtain ⟨lower, hlower, h⟩ := bind_eq_ok.1 h
    cases value with
    | none => cases h
    | some v =>
      cases lower with
      | none => cases h
      | some l =>
        dsimp only at h
        cases hblank : high.isBlank with
        | true =>
          rw [hblank, if_pos rfl] at h
          exact ⟨⟨v, l, hvalue, hlower, Except.ok.inj h⟩, fun h => by cases h⟩
        | false =>
          rw [hblank, if_neg Bool.false_ne_true] at h
          obtain ⟨upper, hupper, h⟩ := bind_eq_ok.1 h
          cases upper with
          | none => cases h
          | some u =>
            have h := Except.ok.inj h
            rw [Bool.and_eq_true] at h
            exact ⟨⟨v, l, hvalue, hlower, h.1⟩, fun _ => ⟨v, u, hvalue, hupper, h.2⟩⟩
  · rintro ⟨⟨v, l, hvalue, hlower, hle⟩, hhigh⟩
    refine ⟨some v, hvalue, bind_eq_ok.2 ⟨some l, hlower, ?_⟩⟩
    dsimp only
    cases hblank : high.isBlank with
    | true => exact congrArg Except.ok hle
    | false =>
      obtain ⟨v', u, hvalue', hupper, hle'⟩ := hhigh hblank
      cases hvalue.symm.trans hvalue'
      rw [if_neg Bool.false_ne_true, hupper]
      exact congrArg Except.ok ((Bool.and_eq_true _ _).mpr ⟨hle, hle'⟩)

end Ranges

/-! ### Choices -/

/-- On fields without numbers values are equal if their texts are. -/
theorem equal_eq_ok {type : FieldType} (htype : type ≠ .number) {actual expected : Value} {b : Bool} :
    equal type actual expected = .ok b ↔
      ∃ s t, actual.comparisonText = .ok s ∧ expected.comparisonText = .ok t ∧ decide (s = t) = b := by
  unfold equal
  cases type with
  | number => exact absurd rfl htype
  | _ =>
    change (do return decide ((← actual.comparisonText) = (← expected.comparisonText))) = Except.ok b ↔ _
    rw [bind_eq_ok]
    constructor
    · rintro ⟨s, hs, h⟩
      obtain ⟨t, ht, h⟩ := bind_eq_ok.1 h
      exact ⟨s, t, hs, ht, Except.ok.inj h⟩
    · rintro ⟨s, t, hs, ht, h⟩
      exact ⟨s, hs, bind_eq_ok.2 ⟨t, ht, congrArg Except.ok h⟩⟩

/-- One of the texts that decide a choice is that of the stored value. -/
theorem isAmong_eq_ok {actual expected : Value} {b : Bool} :
    isAmong actual expected = .ok b ↔
      ∃ s ss, actual.comparisonText = .ok s ∧ expected.members.mapM Value.comparisonText = .ok ss ∧
        decide (s ∈ ss) = b := by
  unfold isAmong
  rw [bind_eq_ok]
  constructor
  · rintro ⟨s, hs, h⟩
    obtain ⟨ss, hss, h⟩ := bind_eq_ok.1 h
    exact ⟨s, ss, hs, hss, Except.ok.inj h⟩
  · rintro ⟨s, ss, hs, hss, h⟩
    exact ⟨s, hs, bind_eq_ok.2 ⟨ss, hss, congrArg Except.ok h⟩⟩

section Choices

variable {type : FieldType} {actual : Value} {o : Operand}

/-- A choice among several values holds if one of them is equal to the stored value. -/
theorem isAmong_eq_ok_true (htype : type ≠ .number) :
    isAmong actual o.toValue = .ok true ↔
      ∃ x ∈ o.elements, equal type actual x.toValue = .ok true := by
  rw [isAmong_eq_ok, o.members_toValue]
  constructor
  · rintro ⟨s, ss, hs, hss, hmem⟩
    obtain ⟨v, hv, hvs⟩ := (mem_of_mapM_eq_ok hss s).1 (of_decide_eq_true hmem)
    obtain ⟨x, hx, rfl⟩ := List.mem_map.1 hv
    exact ⟨x, hx, (equal_eq_ok htype).2 ⟨s, s, hs, hvs, decide_eq_true rfl⟩⟩
  · rintro ⟨x, hx, h⟩
    obtain ⟨s, t, hs, ht, hst⟩ := (equal_eq_ok htype).1 h
    obtain rfl := of_decide_eq_true hst
    obtain ⟨ss, hss⟩ := exists_mapM_eq_ok (Operand.comparisonText_elements hx ⟨s, ht⟩)
    exact ⟨s, ss, hs, hss, decide_eq_true ((mem_of_mapM_eq_ok hss s).2
      ⟨x.toValue, List.mem_map_of_mem hx, ht⟩)⟩

/-- A choice among several values fails if each of them differs from the stored value. -/
theorem isAmong_eq_ok_false (htype : type ≠ .number) (hactual : actual.HasText) :
    isAmong actual o.toValue = .ok false ↔
      ∀ x ∈ o.elements, equal type actual x.toValue = .ok false := by
  obtain ⟨s, hs⟩ := hactual.comparisonText
  rw [isAmong_eq_ok, o.members_toValue]
  constructor
  · rintro ⟨s', ss, hs', hss, hmem⟩ x hx
    cases hs.symm.trans hs'
    obtain ⟨t, ht⟩ := exists_of_mapM_eq_ok hss x.toValue (List.mem_map_of_mem hx)
    refine (equal_eq_ok htype).2 ⟨s, t, hs, ht, decide_eq_false ?_⟩
    rintro rfl
    exact of_decide_eq_false hmem
      ((mem_of_mapM_eq_ok hss s).2 ⟨x.toValue, List.mem_map_of_mem hx, ht⟩)
  · intro h
    have htexts : ∀ v ∈ o.elements.map Operand.toValue, ∃ t, v.comparisonText = .ok t ∧ t ≠ s := by
      intro v hv
      obtain ⟨x, hx, rfl⟩ := List.mem_map.1 hv
      obtain ⟨s', t, hs', ht, hst⟩ := (equal_eq_ok htype).1 (h x hx)
      cases hs.symm.trans hs'
      exact ⟨t, ht, Ne.symm (of_decide_eq_false hst)⟩
    obtain ⟨ss, hss⟩ := exists_mapM_eq_ok fun v hv => (htexts v hv).imp fun t ht => ht.1
    refine ⟨s, ss, hs, hss, decide_eq_false fun hmem => ?_⟩
    obtain ⟨v, hv, hvs⟩ := (mem_of_mapM_eq_ok hss s).1 hmem
    obtain ⟨t, ht, hne⟩ := htexts v hv
    cases ht.symm.trans hvs
    exact hne rfl

end Choices

/-! ### Sets of members -/

theorem allAmong_eq_ok {present : List String} {vs : List Value} :
    holdsAll.allAmong present vs = .ok true ↔ ∀ v ∈ vs, ∃ s ∈ present, v.foldedText = .ok s := by
  induction vs with
  | nil => simp [holdsAll.allAmong]
  | cons v vs ih =>
    rw [holdsAll.allAmong, bind_eq_ok, List.forall_mem_cons, ← ih]
    constructor
    · rintro ⟨s, hs, h⟩
      split at h
      · rename_i hmem
        exact ⟨⟨s, hmem, hs⟩, h⟩
      · cases h
    · rintro ⟨⟨s, hmem, hs⟩, h⟩
      exact ⟨s, hs, by rwa [if_pos hmem]⟩

theorem anyFolded_eq_ok {needle : String} {vs : List Value} {present : List String}
    (hpresent : vs.mapM Value.foldedText = .ok present) :
    holds.anyFolded needle vs = .ok true ↔ needle ∈ present := by
  induction vs generalizing present with
  | nil =>
    cases hpresent
    simp [holds.anyFolded]
  | cons v vs ih =>
    rw [List.mapM_cons] at hpresent
    obtain ⟨s, hs, hpresent⟩ := bind_eq_ok.1 hpresent
    obtain ⟨rest, hrest, hpresent⟩ := bind_eq_ok.1 hpresent
    cases hpresent
    rw [holds.anyFolded, bind_eq_ok, List.mem_cons, ← ih hrest]
    constructor
    · rintro ⟨s', hs', h⟩
      cases hs.symm.trans hs'
      split at h
      · rename_i heq
        exact .inl heq.symm
      · exact .inr h
    · intro h
      refine ⟨s, hs, ?_⟩
      by_cases heq : s = needle
      · rw [if_pos heq]
        rfl
      · rw [if_neg heq]
        exact h.resolve_left (Ne.symm heq)

theorem holds_array_eq_ok {actual expected : Value} {present : List String}
    (hpresent : actual.members.mapM Value.foldedText = .ok present) :
    holds .array actual expected = .ok true ↔ ∃ s ∈ present, expected.foldedText = .ok s := by
  unfold holds
  rw [bind_eq_ok]
  constructor
  · rintro ⟨s, hs, h⟩
    exact ⟨s, (anyFolded_eq_ok hpresent).1 h, hs⟩
  · rintro ⟨s, hmem, hs⟩
    exact ⟨s, hs, (anyFolded_eq_ok hpresent).2 hmem⟩

/-- All expected members are there if each of them is. -/
theorem holdsAll_eq_ok {actual : Value} (hactual : actual.HasText) {o : Operand} :
    holdsAll actual o.toValue = .ok true ↔
      ∀ x ∈ o.elements, holds .array actual x.toValue = .ok true := by
  obtain ⟨present, hpresent⟩ := exists_mapM_eq_ok fun m hm => (hactual.members m hm).foldedText
  unfold holdsAll
  rw [bind_eq_ok, o.members_toValue]
  have heach : ∀ x : Operand, holds .array actual x.toValue = .ok true ↔
      ∃ s ∈ present, x.toValue.foldedText = .ok s := fun x => holds_array_eq_ok hpresent
  constructor
  · rintro ⟨present', hpresent', h⟩ x hx
    cases hpresent.symm.trans hpresent'
    exact (heach x).2 (allAmong_eq_ok.1 h _ (List.mem_map_of_mem hx))
  · intro h
    refine ⟨present, hpresent, allAmong_eq_ok.2 fun v hv => ?_⟩
    obtain ⟨x, hx, rfl⟩ := List.mem_map.1 hv
    exact (heach x).1 (h x hx)

end Comparison

end Segmentation
