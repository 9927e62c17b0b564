import Segmentation.Proofs.Console.RuleTree
import Segmentation.Proofs.Editing.Coercion
import Segmentation.Proofs.Text

/-!
# Lists written with commas

* `Operand.IsPart`: the texts that a list with commas can be made of.
* `Operand.commaParts_join`: such texts, shown one after the other, are read again as they were.
* `Operand.isPart_of_mem_commaParts`: whatever is read from text are such texts.
* `Operand.ofListInput_join_iff`: so they are the only ones that are read again from the line that shows them.
* `Condition.setValue_join_iff`: a condition with a list stays as it is when its line is edited without a change.
-/

namespace Segmentation

open Text.Markup

/-! ## Parts of a list -/

namespace Operand

/-- The text can stand between commas: it is not empty, has no comma, and neither starts nor ends with a blank. -/
structure IsPart (part : String) : Prop where
  nonempty : part ≠ ""
  noComma : ',' ∉ part.toList
  trimmed : Text.IsTrimmed part

variable {parts : List String}

theorem IsPart.trim_eq {part : String} (h : IsPart part) : Text.trim part = part :=
  Text.trim_eq_self h.trimmed

/-- The blank after the comma goes. -/
theorem IsPart.trim_blank {part : String} (h : IsPart part) : Text.trim (String.ofList [' '] ++ part) = part := by
  have hchars : (String.ofList [' '] ++ part).toList = ' ' :: part.toList := by
    rw [String.toList_append, String.toList_ofList, List.singleton_append]
  rw [Text.trim, hchars, Text.trimList_cons rfl]
  exact h.trim_eq

theorem commaParts_join (h : ∀ part ∈ parts, IsPart part) : commaParts (Text.join ", " parts) = parts := by
  cases parts with
  | nil => rfl
  | cons part rest =>
    have hsplit : Text.split (Text.join ", " (part :: rest)) ',' = part :: rest.map (String.ofList [' '] ++ ·) :=
      Text.split_join_cons rfl (by decide) fun p hp => (h p hp).noComma
    have hrest : (rest.map (String.ofList [' '] ++ ·)).map Text.trim = rest := by
      rw [List.map_map]
      refine (List.map_congr_left fun p hp => ?_).trans (List.map_id rest)
      exact (h p (List.mem_cons_of_mem _ hp)).trim_blank
    rw [commaParts, hsplit, List.map_cons, (h part List.mem_cons_self).trim_eq, hrest]
    exact List.filter_eq_self.2 fun p hp => decide_eq_true (h p hp).nonempty

theorem isPart_of_mem_commaParts {s part : String} (h : part ∈ commaParts s) : IsPart part := by
  obtain ⟨hmem, hnonempty⟩ := List.mem_filter.1 h
  obtain ⟨piece, hpiece, rfl⟩ := List.mem_map.1 hmem
  refine ⟨of_decide_eq_true hnonempty, fun hcomma => ?_, Text.isTrimmed_trim piece⟩
  rw [Text.trim, String.toList_ofList] at hcomma
  exact Text.notMem_of_mem_split piece hpiece (Text.mem_of_mem_trimList hcomma)

theorem ofListInput_join_iff :
    ofListInput (.text (Text.join ", " parts)) = .ok parts ↔ ∀ part ∈ parts, IsPart part := by
  constructor
  · intro h part hpart
    have hparts : commaParts (Text.join ", " parts) = parts := Except.ok.inj h
    rw [← hparts] at hpart
    exact isPart_of_mem_commaParts hpart
  · exact fun h => congrArg Except.ok (commaParts_join h)

end Operand

/-! ## Conditions with a list -/

theorem OperatorName.takesOne_of_takesList {operator : OperatorName} (h : operator.takesList = true) :
    operator.takesValue = true ∧ operator.takesSecondValue = false := by
  cases operator with
  | known o =>
    revert h
    cases o <;> decide
  | unknown name => cases h

namespace Condition

variable {catalogue : Catalogue} {c : Condition} {parts : List String}

/-- The list is shown with its members only, as one operand. -/
theorem describe_list (hlist : c.operator.takesList = true) (hvalue : c.value = .texts parts) :
    c.describe catalogue = .ok (lineOf (c.subject catalogue) [escape (Text.join ", " parts)]) := by
  have hone := OperatorName.takesOne_of_takesList hlist
  have hoperands : c.shownOperands = .ok [Text.join ", " parts] := by
    unfold shownOperands
    rw [hone.1, hone.2, hvalue]
    rfl
  rw [describe_eq, hoperands]
  rfl

theorem setValue_list (hlist : c.operator.takesList = true) (s : String) :
    c.setValue catalogue (.text s) = .ok { c with value := .texts (Operand.commaParts s) } := by
  unfold setValue
  rw [coerce_list hlist]
  rfl

theorem setValue_join_iff (hlist : c.operator.takesList = true) (hvalue : c.value = .texts parts) :
    c.setValue catalogue (.text (Text.join ", " parts)) = .ok c ↔ ∀ part ∈ parts, Operand.IsPart part := by
  obtain ⟨id, field, operator, value, value2⟩ := c
  obtain rfl : value = .texts parts := hvalue
  rw [setValue_list hlist, ← Operand.ofListInput_join_iff, Operand.ofListInput]
  simp

end Condition

/-- The texts that can stand between commas are exactly those that come back when they are shown with a comma and a
blank between them; every text is read as such a list, so that showing and reading it again changes nothing. This is how
a condition shows its list. -/
theorem Operand.commaLists_roundTrip :
    (∀ parts : List String,
      ofListInput (.text (Text.join ", " parts)) = .ok parts ↔ ∀ part ∈ parts, IsPart part) ∧
    (∀ s : String, ∃ parts, ofListInput (.text s) = .ok parts ∧ (∀ part ∈ parts, IsPart part) ∧
      ofListInput (.text (Text.join ", " parts)) = .ok parts) ∧
    ∀ (catalogue : Catalogue) (c : Condition) (parts : List String),
      c.operator.takesList = true → c.value = .texts parts →
        c.describe catalogue = .ok (lineOf (c.subject catalogue) [escape (Text.join ", " parts)]) ∧
        (c.setValue catalogue (.text (Text.join ", " parts)) = .ok c ↔ ∀ part ∈ parts, IsPart part) := by
  refine ⟨fun parts => ofListInput_join_iff, fun s => ?_, fun catalogue c parts hlist hvalue => ?_⟩
  · have hparts : ∀ part ∈ commaParts s, IsPart part := fun part => isPart_of_mem_commaParts
    exact ⟨commaParts s, rfl, hparts, ofListInput_join_iff.2 hparts⟩
  · exact ⟨Condition.describe_list hlist hvalue, Condition.setValue_join_iff hlist hvalue⟩

/-- Two stages out of a list, the second in two words. -/
def Condition.twoStages : Condition where
  id := "c"
  field := "lifecycle_stage"
  operator := .known .isIn
  value := .texts ["lead", "new customer"]
  value2 := .null

/-- The stages are shown with a comma and a blank between them and read back so; blanks and empty parts of a text say
nothing. -/
theorem Operand.commaLists_roundTrip_stages :
    Condition.twoStages.describe .contact = .ok "Lifecycle stage in [cyan]lead, new customer[/cyan]" ∧
      Condition.twoStages.setValue .contact (.text "lead, new customer") = .ok Condition.twoStages ∧
      ofListInput (.text ",\u2003lead ,, \t,new customer ,") = .ok ["lead", "new customer"] := by
  obtain ⟨hshown, hread⟩ :=
    commaLists_roundTrip.2.2 .contact Condition.twoStages ["lead", "new customer"] rfl rfl
  have hparts : ∀ part ∈ ["lead", "new customer"], IsPart part :=
    (commaLists_roundTrip.1 _).1 rfl
  refine ⟨hshown.trans ?_, hread.2 hparts, ?_⟩
  · decide +kernel
  · decide +kernel

end Segmentation
