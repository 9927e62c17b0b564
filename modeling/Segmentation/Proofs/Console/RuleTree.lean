import Segmentation.Catalogue.Contact
import Segmentation.Console.RuleTree
import Segmentation.Proofs.Rule.Checking
import Segmentation.Proofs.Text.Markup
import Segmentation.Proofs.Value.Text

/-!
# Rule trees as they are shown

* `Condition.describe_eq`: the line of a condition, with its operands apart.
* `Condition.ShownAs`: what of such a line a console reads as markup, and when all of its parts are escaped.
* `Group.Renders`: the branches of a group are those of its conditions and sub-groups, one each.
* `Group.decode_renders`: so every tree that is decoded is shown; `Group.not_escaped_operator` is about one in which the
  name of an operator is read as markup.
-/

namespace Segmentation

open Console Text.Markup

/-! ## Conditions -/

namespace Condition

/-- What a line says before its operands: the label of the field and the name of the operator, which is not escaped. -/
def subject (catalogue : Catalogue) (c : Condition) : String :=
  escape (c.fieldLabel catalogue) ++ " " ++ c.operator.text

/-- The operands of a condition that are shown. -/
def shownOperands (c : Condition) : Except Failure (List String) := do
  if !c.operator.takesValue then return []
  let value ← c.value.shown
  if c.operator.takesSecondValue && !c.value2.isBlank then
    return [value, ← c.value2.shownPlain]
  return [value]

theorem describe_eq (catalogue : Catalogue) (c : Condition) :
    c.describe catalogue =
      c.shownOperands.map fun operands => lineOf (c.subject catalogue) (operands.map escape) := by
  have hone : ∀ subject operand : String, subject ++ " " ++ styled "cyan" operand = lineOf subject [operand] := by
    simp [lineOf, cyanFrom, String.append_assoc]
  have htwo : ∀ subject first second : String,
      subject ++ " " ++ styled "cyan" first ++ " and " ++ styled "cyan" second = lineOf subject [first, second] := by
    simp [lineOf, cyanFrom, String.append_assoc]
  unfold describe shownOperands
  cases c.operator.takesValue with
  | false => exact congrArg Except.ok String.append_empty.symm
  | true =>
    cases c.value.shown with
    | error failure => rfl
    | ok value =>
      cases c.operator.takesSecondValue && !c.value2.isBlank with
      | false => exact congrArg Except.ok (hone _ _)
      | true =>
        cases c.value2.shownPlain with
        | error failure => rfl
        | ok bound => exact congrArg Except.ok (htwo _ _ _)

end Condition

/-! ### Operands that can be shown -/

theorem Value.forms_texts (items : List String) :
    forms (items.map text) = .ok (items.map Text.Quoted.text) := by
  induction items with
  | nil => rfl
  | cons item items ih => rw [List.map_cons, forms, ih]; rfl

theorem Operand.exists_shownPlain {o : Operand} (h : o.HasText) : ∃ s, o.shownPlain = .ok s := by
  cases o with
  | int n =>
    have hn : Integer.HasText n := h
    obtain ⟨s, hs⟩ := Integer.exists_text hn
    exact ⟨s, hs⟩
  | texts items => exact ⟨_, bind_eq_ok.2 ⟨_, Value.forms_texts items, rfl⟩⟩
  | _ => exact ⟨_, rfl⟩

theorem Operand.exists_shown {o : Operand} (h : o.HasText) : ∃ s, o.shown = .ok s := by
  cases o with
  | texts items => exact ⟨_, rfl⟩
  | _ => exact exists_shownPlain h

namespace Condition

/-- Operands can be shown if their integers are short enough to be written. -/
theorem IntegersHave.exists_shownOperands {c : Condition} (h : c.IntegersHave Integer.HasText) :
    ∃ operands, c.shownOperands = .ok operands := by
  obtain ⟨value, hvalue⟩ := Operand.exists_shown h.value
  obtain ⟨bound, hbound⟩ := Operand.exists_shownPlain h.value2
  unfold shownOperands
  rw [hvalue, hbound]
  split
  · exact ⟨_, rfl⟩
  · cases c.operator.takesSecondValue && !c.value2.isBlank <;> exact ⟨_, rfl⟩

end Condition

/-! ### Lines and their markup -/

theorem Operator.name_plain (o : Operator) :
    '[' ∉ o.name.toList ∧ ']' ∉ o.name.toList ∧ escape o.name = o.name := by
  cases o <;> decide

namespace Condition

variable {catalogue : Catalogue} {c : Condition} {operands : List String} {line : String}

/-- The line of a condition: its label and its operands are escaped, but the name of its operator stands as it is. So
all parts are escaped exactly if the name needs no escaping. Markup comes from the label and the name read together, and
else only from the pairs around the operands. -/
structure ShownAs (catalogue : Catalogue) (c : Condition) (operands : List String) (line : String) : Prop where
  shown : c.shownOperands = .ok operands
  line_eq : line = lineOf (c.subject catalogue) (operands.map escape)
  escaped : line = lineOf (escape (c.fieldLabel catalogue) ++ " " ++ escape c.operator.text) (operands.map escape) ↔
    escape c.operator.text = c.operator.text
  tags_eq : tags line = tags (c.subject catalogue) ++ operands.flatMap tagsAround
  pairs : tags line = operands.flatMap (fun _ => ["cyan", "/cyan"]) ↔
    tags (c.subject catalogue) = [] ∧ ∀ operand ∈ operands, ¬ EndsOpen operand
  known : c.operator.isKnown = true → escape c.operator.text = c.operator.text ∧ tags (c.subject catalogue) = []

theorem exists_shownAs (h : c.describe catalogue = .ok line) : ∃ operands, c.ShownAs catalogue operands line := by
  rw [describe_eq] at h
  obtain ⟨operands, hoperands, rfl⟩ := map_eq_ok.1 h
  refine ⟨operands, hoperands, rfl, ?_, tags_lineOf _ _, tags_lineOf_iff _ _, fun hknown => ?_⟩
  · unfold lineOf subject
    rw [String.append_left_inj, String.append_right_inj, eq_comm]
  · unfold subject
    cases hoperator : c.operator with
    | known o =>
      obtain ⟨hopen, hclose, hescape⟩ := o.name_plain
      exact ⟨hescape, tags_subject _ hopen hclose⟩
    | unknown name =>
      rw [hoperator] at hknown
      cases hknown

end Condition

/-! ## Trees -/

namespace Group

/-- The mark of a group without children. -/
def emptyMark (g : Group) : List Branch :=
  if g.isVacuous then [.node "[dim](empty)[/dim]" []] else []

mutual

/-- The branches are those of a group: a line for each of its conditions, in their order, then a branch for each of its
sub-groups, and a mark exactly if it has neither. -/
inductive Renders (shows : Condition → String → Prop) : Group → List Branch → Prop where
  | intro {g : Group} {lines : List String} {subtrees : List Branch} (hlines : List.Forall₂ shows g.conditions lines)
      (hsubs : RendersAll shows g.groups subtrees) :
      Renders shows g (lines.map (Branch.node · []) ++ subtrees ++ g.emptyMark)

/-- The branches are those of several groups, each under its connective. -/
inductive RendersAll (shows : Condition → String → Prop) : List Group → List Branch → Prop where
  | nil : RendersAll shows [] []
  | cons {g : Group} {gs : List Group} {inner bs : List Branch} (hg : Renders shows g inner)
      (hgs : RendersAll shows gs bs) :
      RendersAll shows (g :: gs) (.node (styled "bold" g.connective.name) inner :: bs)

end

variable {shows : Condition → String → Prop} {catalogue : Catalogue} {t : Group}

/-- A sub-group with its branches, under its connective. -/
def subBranch (catalogue : Catalogue) (g : Group) : Except Failure Branch := do
  return .node (styled "bold" g.connective.name) (← g.branches catalogue)

theorem subBranches_eq (gs : List Group) : subBranches catalogue gs = gs.mapM (subBranch catalogue) := by
  induction gs with
  | nil => rfl
  | cons g gs ih =>
    rw [subBranches, ih, List.mapM_cons, subBranch, bind_assoc]
    rfl

theorem branches_eq_ok {g : Group} {bs : List Branch} (h : g.branches catalogue = .ok bs) :
    ∃ lines subtrees, g.conditions.mapM (Condition.describe catalogue) = .ok lines ∧
      g.groups.mapM (subBranch catalogue) = .ok subtrees ∧
      bs = lines.map (Branch.node · []) ++ subtrees ++ g.emptyMark := by
  obtain ⟨id, connective, conditions, groups⟩ := g
  rw [branches, subBranches_eq] at h
  obtain ⟨lines, hlines, h⟩ := bind_eq_ok.1 h
  obtain ⟨subtrees, hsubtrees, h⟩ := bind_eq_ok.1 h
  obtain rfl := Except.ok.inj h
  refine ⟨lines, subtrees, hlines, hsubtrees, ?_⟩
  have hempty : (lines.map (Branch.node · []) ++ subtrees).isEmpty = (conditions.isEmpty && groups.isEmpty) := by
    refine Bool.eq_iff_iff.2 ?_
    rw [Bool.and_eq_true, List.isEmpty_iff_length_eq_zero, List.isEmpty_iff_length_eq_zero,
      List.isEmpty_iff_length_eq_zero, List.length_append, List.length_map, length_of_mapM_eq_ok hlines,
      length_of_mapM_eq_ok hsubtrees]
    exact Nat.add_eq_zero_iff
  unfold emptyMark isVacuous
  dsimp only
  rw [hempty]
  split_ifs with hvacuous
  · rw [← hempty] at hvacuous
    rw [List.isEmpty_iff.1 hvacuous, List.nil_append]
  · rw [List.append_nil]

theorem rendersAll_of_mapM {gs : List Group} {bs : List Branch} (h : gs.mapM (subBranch catalogue) = .ok bs)
    (hgs : ∀ g ∈ gs, ∀ inner, g.branches catalogue = .ok inner → g.Renders shows inner) : RendersAll shows gs bs := by
  induction gs generalizing bs with
  | nil =>
    cases h
    exact .nil
  | cons g gs ih =>
    rw [List.forall_mem_cons] at hgs
    rw [List.mapM_cons] at h
    obtain ⟨b, hb, h⟩ := bind_eq_ok.1 h
    obtain ⟨inner, hinner, hb⟩ := bind_eq_ok.1 hb
    obtain ⟨rest, hrest, h⟩ := bind_eq_ok.1 h
    obtain rfl := Except.ok.inj hb
    obtain rfl := Except.ok.inj h
    exact .cons (hgs.1 inner hinner) (ih hrest hgs.2)

/-- Whatever tree can be shown is shown with one line for each condition and one branch for each sub-group. -/
theorem branches_renders {bs : List Branch} (h : t.branches catalogue = .ok bs) :
    t.Renders (fun c line => ∃ operands, c.ShownAs catalogue operands line) bs := by
  induction t generalizing bs with
  | node g ih =>
    obtain ⟨lines, subtrees, hlines, hsubtrees, rfl⟩ := branches_eq_ok h
    refine .intro ?_ (rendersAll_of_mapM hsubtrees fun sub hsub inner hinner => ih sub hsub hinner)
    have hmap := mapM_eq_ok_iff.1 hlines
    rw [← List.forall₂_eq_eq_eq, List.forall₂_map_left_iff, List.forall₂_map_right_iff] at hmap
    exact hmap.imp fun _ _ => Condition.exists_shownAs

/-- A tree can be shown exactly if the operands of all its conditions can. -/
theorem exists_branches_iff (catalogue : Catalogue) : (∃ bs, t.branches catalogue = .ok bs) ↔
    t.EachCondition fun c => ∃ operands, c.shownOperands = .ok operands := by
  induction t with
  | node g ih =>
    rw [eachCondition_iff]
    constructor
    · rintro ⟨bs, hbs⟩
      obtain ⟨lines, subtrees, hlines, hsubtrees, -⟩ := branches_eq_ok hbs
      refine ⟨fun c hc => ?_, fun sub hsub => (ih sub hsub).1 ?_⟩
      · obtain ⟨line, hline⟩ := exists_of_mapM_eq_ok hlines c hc
        rw [Condition.describe_eq] at hline
        obtain ⟨operands, hoperands, -⟩ := map_eq_ok.1 hline
        exact ⟨operands, hoperands⟩
      · obtain ⟨b, hb⟩ := exists_of_mapM_eq_ok hsubtrees sub hsub
        obtain ⟨inner, hinner, -⟩ := bind_eq_ok.1 hb
        exact ⟨inner, hinner⟩
    · rintro ⟨hconditions, hgroups⟩
      have hlines : ∃ lines, g.conditions.mapM (Condition.describe catalogue) = .ok lines :=
        exists_mapM_eq_ok fun c hc => by
          obtain ⟨operands, hoperands⟩ := hconditions c hc
          rw [Condition.describe_eq]
          exact ⟨_, map_eq_ok.2 ⟨operands, hoperands, rfl⟩⟩
      have hsubtrees : ∃ subtrees, g.groups.mapM (subBranch catalogue) = .ok subtrees :=
        exists_mapM_eq_ok fun sub hsub => by
          obtain ⟨inner, hinner⟩ := (ih sub hsub).2 (hgroups sub hsub)
          exact ⟨_, bind_eq_ok.2 ⟨inner, hinner, rfl⟩⟩
      obtain ⟨id, connective, conditions, groups⟩ := g
      rw [branches, subBranches_eq]
      exact exists_bind_eq_ok hlines fun _ => exists_bind_eq_ok hsubtrees fun _ => ⟨_, rfl⟩

/-- A tree that is decoded is shown with one line for each condition and one branch for each sub-group. All text in the
lines is escaped but the names of operators, so that a name that is not known may be read as markup. The tree can be
shown unless an operand is an integer that is too long to be written, and none is in text, in bytes, and in data without
such integers. -/
theorem decode_renders {input : Value} {supply : IdSupply} (h : ((decode input).run supply).1 = .ok t)
    (catalogue : Catalogue) :
    (∀ bs, t.branches catalogue = .ok bs →
        t.Renders (fun c line => ∃ operands, c.ShownAs catalogue operands line) bs) ∧
      ((∃ bs, t.branches catalogue = .ok bs) ↔
        t.EachCondition fun c => ∃ operands, c.shownOperands = .ok operands) ∧
      ((input.IsJsonWith Integer.HasText ∨ ∃ bytes, input = .bytes bytes) →
        ∃ bs, t.branches catalogue = .ok bs) := by
  refine ⟨fun bs => branches_renders, exists_branches_iff catalogue, fun hinput => ?_⟩
  exact (exists_branches_iff catalogue).2 fun c hc => (decode_hasText hinput h c hc).exists_shownOperands

/-- A tree with one condition, whose operator has the name of a closing tag. -/
def closingTag : Value :=
  .text ("\x7b\"conditions\": [\x7b\"field\": \"status\", \"operator\": \"[/x]\", " ++
    "\"value\": \"a\"\x7d]\x7d")

/-- The tree is shown, with a line for its condition. -/
theorem decode_renders_closingTag :
    ∃ t bs, ((decode closingTag).run ⟨0⟩).1 = .ok t ∧ t.branches .contact = .ok bs ∧
      t.Renders (fun c line => ∃ operands, c.ShownAs .contact operands line) bs := by
  have hdecoded : (((decode closingTag).run ⟨0⟩).1.toOption).isSome = true := by decide +kernel
  obtain ⟨t, ht⟩ := Option.isSome_iff_exists.1 hdecoded
  have h := toOption_eq_some.1 ht
  have hjson : closingTag.IsJsonWith Integer.HasText := trivial
  obtain ⟨hrenders, -, hshown⟩ := decode_renders h .contact
  obtain ⟨bs, hbs⟩ := hshown (.inl hjson)
  exact ⟨t, bs, h, hbs, hrenders bs hbs⟩

/-- The name is not escaped, and it is read as a tag that closes nothing. -/
theorem not_escaped_operator :
    let decoded := ((decode closingTag).run ⟨0⟩).1.toOption
    let line := "Contact status [/x] [cyan]a[/cyan]"
    (decoded.map fun t => t.allConditions.map fun c => (c.describe .contact).toOption) = some [some line] ∧
      line ≠ lineOf (escape "Contact status" ++ " " ++ escape "[/x]") [escape "a"] ∧
        tags line = ["/x", "cyan", "/cyan"] := by
  decide +kernel

end Group

end Segmentation
