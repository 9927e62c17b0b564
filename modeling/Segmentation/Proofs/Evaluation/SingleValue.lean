import Segmentation.Catalogue.Contact
import Segmentation.Proofs.Editing.Options
import Segmentation.Proofs.Rule.Checking
import Segmentation.Proofs.Value.Scalar
import Segmentation.Rule.Checking

/-!
# Single values and lists of one

A condition may be stored with a single value or with a list of that value.

* `Condition.check_dataWith_eq_ok`: what is read from stored entries with a given value.
* `Condition.holds_iff_of_members`: a condition that asks for all values of a list compares them one by one.
* `Condition.holds_listed_iff`: the two conditions hold for the same records exactly if the text of the list element
  is the one by which the single value is compared.
-/

namespace Segmentation

open Calendar

/-! ## Reading stored conditions -/

namespace Operand

/-- A scalar is read as it is. -/
theorem check_eq_ok_of_isScalar {v : Value} (hv : v.IsScalar) : ∃ o, check v = .ok o ∧ o.toValue = v := by
  cases v with
  | text s => exact ⟨_, rfl, rfl⟩
  | int n => exact ⟨_, rfl, rfl⟩
  | float x => exact ⟨_, rfl, rfl⟩
  | bool b => exact ⟨_, rfl, rfl⟩
  | _ => exact hv.elim

/-- A list of a scalar is read as the list of its text, if it has one. -/
theorem check_listed_eq_ok {v : Value} (hv : v.IsScalar) {o : Operand} :
    check (.collection .list [v]) = .ok o ↔ ∃ s, v.toText = .ok s ∧ o = .texts [s] := by
  have helement : elementText v = v.toText := by
    cases v with
    | date d => exact hv.elim
    | datetime d => exact hv.elim
    | _ => rfl
  rw [check, List.mapM_cons, List.mapM_nil, helement]
  cases v.toText with
  | error cause => simp [bind, Except.bind, Checked.misfit]
  | ok s => simp [bind, Except.bind, pure, Except.pure, eq_comm]

end Operand

namespace Condition

/-- The data of a condition with the given value; of several entries for it the last one counts. -/
def dataWith (es : List (Value × Value)) (v : Value) : Value :=
  .mapping (es ++ [(.text "value", v)])

/-- A condition is read from stored entries part by part. -/
theorem check_dataWith_eq_ok {es : List (Value × Value)} {v : Value} {supply : IdSupply} {c : Condition} :
    ((check (dataWith es v)).run supply).1 = .ok c ↔
      ((checkId es).run supply).1 = .ok c.id ∧ Schema.required es "field" Schema.text = .ok c.field ∧
        Schema.required es "operator" OperatorName.check = .ok c.operator ∧ Operand.check v = .ok c.value ∧
        Schema.withDefault es "value2" .null Operand.check = .ok c.value2 := by
  rw [dataWith, check_mapping_eq_ok, checkId_append (by decide), Schema.required_append (by decide),
    Schema.required_append (by decide), Schema.withDefault_append_self, Schema.withDefault_append (by decide),
    Checked.under_eq_ok]

/-! ## Asking for one text -/

/-- The operand has one member, which is compared by the text. -/
def AsksFor (c : Condition) (t : String) : Prop :=
  ∃ member, c.value.toValue.members = [member] ∧ member.comparisonText = .ok t

variable {catalogue : Catalogue} {now : DateTime} {record : Value} {c : Condition} {operator : Operator}
  {s t : String}

theorem AsksFor.choices (hc : c.AsksFor t) : c.value.toValue.members.mapM Value.comparisonText = .ok [t] := by
  obtain ⟨member, hmembers, ht⟩ := hc
  rw [hmembers, List.mapM_cons, ht]
  rfl

/-- A single scalar is such an operand. -/
theorem asksFor_of_isScalar {v : Value} (hv : v.IsScalar) (hblank : v ≠ .text "") (hvalue : c.value.toValue = v)
    (ht : v.comparisonText = .ok t) : c.AsksFor t := by
  refine ⟨v, ?_, ht⟩
  rw [hvalue]
  cases v with
  | text s =>
    have hs : s ≠ "" := fun hs => hblank (congrArg Value.text hs)
    exact if_neg hs
  | int n => rfl
  | float x => rfl
  | bool b => rfl
  | _ => exact hv.elim

/-- So is the list of one text. -/
theorem asksFor_of_texts (hvalue : c.value = .texts [s]) : c.AsksFor s :=
  ⟨.text s, by rw [hvalue]; rfl, rfl⟩

/-- The texts of the members of the record's field, in small letters. -/
def fieldMembers (catalogue : Catalogue) (record : Value) (c : Condition) : Except Failure (List String) :=
  (Comparison.stored (catalogue.fieldType c.field) (record.resolve c.field)).members.mapM Value.foldedText

/-- A condition that asks for all of one text needs it among the members of the field. -/
theorem holds_iff_of_members (hadmitted : c.admitted catalogue = .ok .containsAll) (hc : c.AsksFor t) :
    c.holds catalogue now record = true ↔
      ∃ present, c.fieldMembers catalogue record = .ok present ∧ Text.lower t ∈ present := by
  obtain ⟨member, hmembers, ht⟩ := hc
  have hfolded : member.foldedText = .ok (Text.lower t) := by
    rw [Value.foldedText, ht]
    rfl
  rw [holds, verdict_of_admitted hadmitted, Verdict.holds_ofAnswer]
  unfold Comparison.apply Comparison.holdsAll fieldMembers
  simp only [bind_eq_ok, hmembers, Comparison.allAmong_eq_ok, List.forall_mem_singleton, hfolded]
  simp

/-! ## Two operands that ask for one text each -/

section Alike

variable {o : Operand}

/-- Choices of one text are answered alike exactly if the texts are the same. -/
theorem choices_alike_iff (hadmitted : c.admitted catalogue = .ok operator)
    (hoperator : operator = .isIn ∨ operator = .notIn) (hc : c.AsksFor t) (ho : { c with value := o }.AsksFor s) :
    (∀ now record, { c with value := o }.holds catalogue now record = c.holds catalogue now record) ↔ t = s := by
  have hbefore : ∀ now record, c.holds catalogue now record = true ↔
      ∃ u, c.fieldText catalogue record = .ok u ∧ (u ∈ [t] ↔ operator = .isIn) :=
    fun now record => holds_iff_of_choices hadmitted hoperator hc.choices
  have hafter : ∀ now record, { c with value := o }.holds catalogue now record = true ↔
      ∃ u, c.fieldText catalogue record = .ok u ∧ (u ∈ [s] ↔ operator = .isIn) :=
    fun now record => holds_iff_of_choices (c := { c with value := o }) hadmitted hoperator ho.choices
  constructor
  · intro halike
    -- A record with the first text in the field tells the two texts apart.
    have hsame := halike default (.record [(c.field, .text t)])
    rw [Bool.eq_iff_iff, hbefore, hafter, fieldText_record] at hsame
    simp only [Except.ok.injEq, exists_eq_left', List.mem_singleton, true_iff] at hsame
    by_contra hne
    simp [hne] at hsame
  · rintro rfl now record
    rw [Bool.eq_iff_iff, hbefore, hafter]

/-- Questions for all of one text are answered alike exactly if the texts are the same but for case. -/
theorem members_alike_iff (hadmitted : c.admitted catalogue = .ok .containsAll) (hc : c.AsksFor t)
    (ho : { c with value := o }.AsksFor s) :
    (∀ now record, { c with value := o }.holds catalogue now record = c.holds catalogue now record) ↔
      Text.lower t = Text.lower s := by
  have hbefore : ∀ now record, c.holds catalogue now record = true ↔
      ∃ present, c.fieldMembers catalogue record = .ok present ∧ Text.lower t ∈ present :=
    fun now record => holds_iff_of_members hadmitted hc
  have hafter : ∀ now record, { c with value := o }.holds catalogue now record = true ↔
      ∃ present, c.fieldMembers catalogue record = .ok present ∧ Text.lower s ∈ present :=
    fun now record => holds_iff_of_members (c := { c with value := o }) hadmitted ho
  constructor
  · intro halike
    -- A record with the first text as its only member tells the two texts apart.
    let member : Value := .collection .list [.text t]
    have hsame := halike default (.record [(c.field, member)])
    have hmembers : c.fieldMembers catalogue (.record [(c.field, member)]) = .ok [Text.lower t] := by
      rw [fieldMembers, Value.resolve_record c.field rfl]
      rfl
    rw [Bool.eq_iff_iff, hbefore, hafter, hmembers] at hsame
    simpa [eq_comm] using hsame
  · intro hlower now record
    rw [Bool.eq_iff_iff, hbefore, hafter, hlower]

end Alike

/-! ## Stored single values and lists -/

/-- What is read with a list of a scalar in the place of the scalar, if the scalar has a text. -/
theorem check_dataWith_listed {es : List (Value × Value)} {v : Value} (hv : v.IsScalar) {supply : IdSupply}
    {single listed : Condition} (hsingle : ((check (dataWith es v)).run supply).1 = .ok single) :
    ((check (dataWith es (.collection .list [v]))).run supply).1 = .ok listed ↔
      ∃ s, v.toText = .ok s ∧ listed = { single with value := .texts [s] } := by
  obtain ⟨hid, hfield, hoperator, -, hvalue2⟩ := check_dataWith_eq_ok.1 hsingle
  rw [check_dataWith_eq_ok, hid, hfield, hoperator, hvalue2, Operand.check_listed_eq_ok hv]
  constructor
  · rintro ⟨hid', hfield', hoperator', ⟨s, hs, hvalue⟩, hvalue2'⟩
    refine ⟨s, hs, ?_⟩
    cases listed
    cases hid'
    cases hfield'
    cases hoperator'
    cases hvalue
    cases hvalue2'
    rfl
  · rintro ⟨s, hs, rfl⟩
    exact ⟨rfl, rfl, rfl, ⟨s, hs, rfl⟩, rfl⟩

/-- A stored condition that asks for one text is answered alike with a single value and with a list of it exactly if
the value is compared as it is written, where only the question for all members ignores case. Otherwise some record
tells the two apart, or the list cannot be read. -/
theorem holds_listed_iff {es : List (Value × Value)} {v : Value} (hv : v.IsScalar) (hblank : v ≠ .text "")
    {supply : IdSupply} {single : Condition} (hsingle : ((check (dataWith es v)).run supply).1 = .ok single)
    (hadmitted : single.admitted catalogue = .ok operator) (hoperator : operator ∈ [.isIn, .notIn, .containsAll]) :
    (∃ listed, ((check (dataWith es (.collection .list [v]))).run supply).1 = .ok listed ∧
        ∀ now record, listed.holds catalogue now record = single.holds catalogue now record) ↔
      v.ComparesAsWritten (operator = .containsAll) := by
  simp only [check_dataWith_listed hv hsingle]
  by_cases htext : v.HasText
  · obtain ⟨s, hs⟩ := htext
    obtain ⟨t, ht⟩ := Value.HasText.comparisonText ⟨s, hs⟩
    obtain ⟨o, ho, hovalue⟩ := Operand.check_eq_ok_of_isScalar hv
    have hvalue : single.value.toValue = v := by
      rw [← hovalue, Except.ok.inj ((check_dataWith_eq_ok.1 hsingle).2.2.2.1.symm.trans ho)]
    have hsingleAsks : single.AsksFor t := asksFor_of_isScalar hv hblank hvalue ht
    have hlistedAsks : { single with value := .texts [s] }.AsksFor s := asksFor_of_texts rfl
    have halike : (∀ now record, { single with value := .texts [s] }.holds catalogue now record =
        single.holds catalogue now record) ↔ v.ComparesAsWritten (operator = .containsAll) := by
      rw [Value.comparesAsWritten_iff hv hs ht]
      simp only [List.mem_cons, List.not_mem_nil, or_false] at hoperator
      rcases hoperator with rfl | rfl | rfl
      · exact choices_alike_iff hadmitted (.inl rfl) hsingleAsks hlistedAsks
      · exact choices_alike_iff hadmitted (.inr rfl) hsingleAsks hlistedAsks
      · exact members_alike_iff hadmitted hsingleAsks hlistedAsks
    rw [← halike]
    constructor
    · rintro ⟨listed, ⟨s', hs', rfl⟩, h⟩
      cases hs.symm.trans hs'
      exact h
    · exact fun h => ⟨_, ⟨s, hs, rfl⟩, h⟩
  · constructor
    · rintro ⟨listed, ⟨s, hs, -⟩, -⟩
      exact absurd ⟨s, hs⟩ htext
    · exact fun h => absurd (h.hasText hv) htext

/-- One and a half is compared as it is written, so that it may be stored either way under the older name of the
question for all members. -/
theorem holds_listed_iff_half :
    let x : Binary64 := .finite false (3 * 2 ^ 51) (-52) (by decide)
    let es : List (Value × Value) := [(.text "id", .text "c"), (.text "field", .text "tags"),
      (.text "operator", .text "array_contains_all")]
    let single : Condition := ⟨"c", "tags", .known .containsAll, .float x, .null⟩
    (((check (dataWith es (.float x))).run ⟨0⟩).1 = .ok single ∧ single.admitted .contact = .ok .containsAll) ∧
      ∃ listed, ((check (dataWith es (.collection .list [.float x]))).run ⟨0⟩).1 = .ok listed ∧
        ∀ now record, listed.holds .contact now record = single.holds .contact now record := by
  intro x es single
  have hsingle : ((check (dataWith es (.float x))).run ⟨0⟩).1 = .ok single := rfl
  have hadmitted : single.admitted .contact = .ok .containsAll := by decide
  have hscalar : (Value.float x).IsScalar := trivial
  have hfraction : x.isIntegral = false := by decide
  exact ⟨⟨hsingle, hadmitted⟩,
    (holds_listed_iff hscalar (by simp) hsingle hadmitted (by decide)).2 hfraction⟩

/-- A flag as a choice and a whole floating-point number among the members of a field are found when they are stored
alone, and are not found when they are stored in a list. -/
theorem not_holds_listed :
    let flagged : List (Value × Value) := [(.text "id", .text "c"), (.text "field", .text "status"),
      (.text "operator", .text "in")]
    let tagged : List (Value × Value) := [(.text "id", .text "c"), (.text "field", .text "tags"),
      (.text "operator", .text "contains_all")]
    let one : Binary64 := .finite false (2 ^ 52) (-52) (by decide)
    (∃ single listed, ((check (dataWith flagged (.bool true))).run ⟨0⟩).1 = .ok single ∧
      ((check (dataWith flagged (.collection .list [.bool true]))).run ⟨0⟩).1 = .ok listed ∧
      single.holds .contact default (.ofFields [("status", .bool true)]) = true ∧
      listed.holds .contact default (.ofFields [("status", .bool true)]) = false) ∧
    ∃ single listed, ((check (dataWith tagged (.float one))).run ⟨0⟩).1 = .ok single ∧
      ((check (dataWith tagged (.collection .list [.float one]))).run ⟨0⟩).1 = .ok listed ∧
      single.holds .contact default (.ofFields [("tags", .collection .list [.float one])]) = true ∧
      listed.holds .contact default (.ofFields [("tags", .collection .list [.float one])]) = false := by
  intro flagged tagged one
  refine ⟨⟨⟨"c", "status", .known .isIn, .bool true, .null⟩, ⟨"c", "status", .known .isIn, .texts ["True"], .null⟩,
    rfl, rfl, ?_, ?_⟩, ⟨"c", "tags", .known .containsAll, .float one, .null⟩,
    ⟨"c", "tags", .known .containsAll, .texts ["1.0"], .null⟩, rfl, ?_, ?_, ?_⟩
  · decide +kernel
  · decide +kernel
  · rfl
  · decide +kernel
  · decide +kernel

end Condition

end Segmentation
