import Segmentation.Proofs.Evaluation.Monotone
import Segmentation.Proofs.Evaluation.Verdict
import Segmentation.Proofs.Rule.Nodes

/-!
# Validation agrees with evaluation

* `Group.mem_validate`: what is reported besides repeated identifiers, in terms of the group at the path of an
  issue and of its conditions.
* `Group.reportsOperator_iff`: an error about the operator of a condition is reported exactly if the catalogue
  does not allow the operator.
* `Group.reportsEmpty_iff`: a group is reported as empty exactly if it has no children.
* `Group.validate_agrees`: these are the conditions that evaluation turns down on their operator, and the
  groups that are constant for want of children.
-/

namespace Segmentation

open Calendar

/-! ## Issues of a tree -/

theorem mem_issuesFrom {seen : List String} {ns : List Node} {issue : Issue}
    (hdefect : ∀ id, issue.defect ≠ .duplicateId id) :
    issue ∈ issuesFrom seen ns ↔
      ∃ n ∈ ns, n.path = issue.path ∧ n.id = issue.nodeId ∧ issue.defect ∈ n.defects := by
  induction ns generalizing seen with
  | nil => simp [issuesFrom]
  | cons n ns ih =>
    have hown : issue ∈ n.issues seen ↔
        n.path = issue.path ∧ n.id = issue.nodeId ∧ issue.defect ∈ n.defects := by
      obtain ⟨path, nodeId, defect⟩ := issue
      have hnew : defect ∉ (if n.id ∈ seen then [Defect.duplicateId n.id] else []) := by
        intro hmem
        rw [List.mem_ite_nil_right, List.mem_singleton] at hmem
        exact hdefect n.id hmem.2
      simp only [Node.issues, List.mem_map, List.mem_append, Issue.mk.injEq]
      constructor
      · rintro ⟨d, hd, hpath, hid, rfl⟩
        exact ⟨hpath, hid, hd.resolve_left hnew⟩
      · rintro ⟨hpath, hid, hd⟩
        exact ⟨defect, .inr hd, hpath, hid, rfl⟩
    rw [issuesFrom, List.mem_append, hown, ih, List.exists_mem_cons_iff]

namespace Group

variable {catalogue : Catalogue} {t g : Group} {path : List Nat}

theorem mem_nodes {n : Node} :
    n ∈ t.nodes catalogue ↔ ∃ g, t.getAt (n.path.map Int.ofNat) = .ok g ∧ n ∈ g.nodesAt catalogue n.path := by
  rw [nodes, ← walk_eq_preorder, List.mem_flatMap]
  constructor
  · rintro ⟨⟨path, g⟩, hg, hn⟩
    have hpath : n.path = path := by
      rcases List.mem_cons.1 hn with rfl | hn
      · rfl
      · obtain ⟨c, -, rfl⟩ := List.mem_map.1 hn
        rfl
    subst hpath
    exact ⟨g, mem_walk.1 hg, hn⟩
  · rintro ⟨g, hg, hn⟩
    exact ⟨(n.path, g), mem_walk.2 hg, hn⟩

/-- Repeated identifiers apart, the issues at a path are the defects of the group there and those of its
conditions. -/
theorem mem_validate (hg : t.getAt (path.map Int.ofNat) = .ok g) {id : String} {defect : Defect}
    (hdefect : ∀ id, defect ≠ .duplicateId id) :
    ⟨path, id, defect⟩ ∈ t.validate catalogue ↔
      (id = g.id ∧ defect ∈ g.defects) ∨ ∃ c ∈ g.conditions, id = c.id ∧ defect ∈ c.defects catalogue := by
  rw [validate, mem_issuesFrom hdefect]
  dsimp only
  constructor
  · rintro ⟨n, hn, hpath, rfl, hd⟩
    obtain ⟨g', hg', hn⟩ := mem_nodes.1 hn
    rw [hpath] at hg' hn
    cases hg.symm.trans hg'
    rcases List.mem_cons.1 hn with rfl | hn
    · exact .inl ⟨rfl, hd⟩
    · obtain ⟨c, hc, rfl⟩ := List.mem_map.1 hn
      exact .inr ⟨c, hc, rfl, hd⟩
  · rintro (⟨rfl, hd⟩ | ⟨c, hc, rfl, hd⟩)
    · exact ⟨⟨path, g.id, g.defects⟩, mem_nodes.2 ⟨g, hg, List.mem_cons_self⟩, rfl, rfl, hd⟩
    · exact ⟨⟨path, c.id, c.defects catalogue⟩,
        mem_nodes.2 ⟨g, hg, List.mem_cons_of_mem _ (List.mem_map_of_mem hc)⟩, rfl, rfl, hd⟩

end Group

/-! ## Errors about operators -/

/-- The defect says that the operator of the condition has no meaning, or none on its field. -/
def Defect.Blames (c : Condition) : Defect → Prop
  | unknownOperator name => c.operator = .unknown name
  | operatorNotAllowed operator _ field => c.operator = .known operator ∧ c.field = field
  | _ => False

theorem Defect.Blames.severity {defect : Defect} {c : Condition} (h : defect.Blames c) :
    defect.severity = .error := by
  cases defect with
  | unknownOperator name => rfl
  | operatorNotAllowed operator type field => rfl
  | _ => cases h

theorem Defect.Blames.ne_duplicateId {defect : Defect} {c : Condition} (h : defect.Blames c) (id : String) :
    defect ≠ .duplicateId id := by
  rintro rfl
  exact h

namespace Condition

variable {catalogue : Catalogue} {c d : Condition} {defect : Defect}

/-- Whichever condition the defect was found in, the operator that it blames is not allowed. -/
theorem not_admissible_of_blames (hmem : defect ∈ d.defects catalogue) (hblames : defect.Blames c) :
    ¬ c.Admissible catalogue := by
  rintro ⟨operator, hoperator, hallowed⟩
  cases mem_defects.1 hmem with
  | unknownField _ => exact hblames
  | unknownOperator _ => cases hoperator.symm.trans hblames
  | notAllowed _ hnone =>
    obtain ⟨hoperator', hfield⟩ := hblames
    cases hoperator.symm.trans hoperator'
    rw [hfield, hnone] at hallowed
    cases hallowed
  | noValue _ _ _ => exact hblames
  | noUpperBound _ _ _ => exact hblames

theorem exists_blames_of_not_admissible (h : ¬ c.Admissible catalogue) :
    ∃ defect ∈ c.defects catalogue, defect.Blames c := by
  cases hoperator : c.operator with
  | unknown name => exact ⟨_, mem_defects.2 (.unknownOperator hoperator), hoperator⟩
  | known operator =>
    cases hcanonical : catalogue.canonicalOperator? c.field operator with
    | none => exact ⟨_, mem_defects.2 (.notAllowed hoperator hcanonical), hoperator, rfl⟩
    | some canonical => exact absurd ⟨operator, hoperator, by rw [hcanonical]; rfl⟩ h

end Condition

namespace Group

/-- For the group at the path an error is reported that blames the operator of the condition. -/
def ReportsOperator (catalogue : Catalogue) (t : Group) (path : List Nat) (c : Condition) : Prop :=
  ∃ issue ∈ t.validate catalogue,
    issue.path = path ∧ issue.nodeId = c.id ∧ issue.severity = .error ∧ issue.defect.Blames c

/-- For the group at the path a warning is reported that it is empty. -/
def ReportsEmpty (catalogue : Catalogue) (t : Group) (path : List Nat) : Prop :=
  ∃ issue ∈ t.validate catalogue,
    issue.path = path ∧ issue.severity = .warning ∧ ∃ connective, issue.defect = .emptyGroup connective

variable {catalogue : Catalogue} {t g : Group} {path : List Nat}

theorem mem_defects {defect : Defect} :
    defect ∈ g.defects ↔ g.isVacuous = true ∧ defect = .emptyGroup g.connective := by
  rw [defects, List.mem_ite_nil_right, List.mem_singleton]

/-- An error about an operator is reported exactly if the catalogue does not allow the operator. -/
theorem reportsOperator_iff (hg : t.getAt (path.map Int.ofNat) = .ok g) {c : Condition}
    (hc : c ∈ g.conditions) : t.ReportsOperator catalogue path c ↔ ¬ c.Admissible catalogue := by
  constructor
  · rintro ⟨⟨path', id, defect⟩, hissue, hpath, -, -, hblames⟩
    dsimp only at hpath hblames
    subst hpath
    rcases (mem_validate hg hblames.ne_duplicateId).1 hissue with ⟨-, hdefect⟩ | ⟨d, -, -, hdefect⟩
    · rw [(mem_defects.1 hdefect).2] at hblames
      exact hblames.elim
    · exact Condition.not_admissible_of_blames hdefect hblames
  · intro h
    obtain ⟨defect, hdefect, hblames⟩ := Condition.exists_blames_of_not_admissible h
    have hissue : ⟨path, c.id, defect⟩ ∈ t.validate catalogue :=
      (mem_validate hg hblames.ne_duplicateId).2 (.inr ⟨c, hc, rfl, hdefect⟩)
    exact ⟨_, hissue, rfl, rfl, hblames.severity, hblames⟩

/-- A group is reported as empty exactly if it has no children. -/
theorem reportsEmpty_iff (hg : t.getAt (path.map Int.ofNat) = .ok g) :
    t.ReportsEmpty catalogue path ↔ g.isVacuous = true := by
  have hnew : ∀ connective id, Defect.emptyGroup connective ≠ .duplicateId id := by
    intro connective id h
    cases h
  constructor
  · rintro ⟨⟨path', id, defect⟩, hissue, hpath, -, connective, hempty⟩
    dsimp only at hpath hempty
    subst hpath hempty
    rcases (mem_validate hg (hnew connective)).1 hissue with ⟨-, hdefect⟩ | ⟨c, -, -, hdefect⟩
    · exact (mem_defects.1 hdefect).1
    · cases Condition.mem_defects.1 hdefect
  · intro h
    have hissue : ⟨path, g.id, .emptyGroup g.connective⟩ ∈ t.validate catalogue :=
      (mem_validate hg (hnew _)).2 (.inl ⟨rfl, mem_defects.2 ⟨h, rfl⟩⟩)
    exact ⟨_, hissue, rfl, rfl, _, rfl⟩

/-- Without children a group under AND holds for every record and a group under OR for none. -/
theorem holds_of_isVacuous {now : DateTime} {record : Value} (hg : g.isVacuous = true) :
    g.holds catalogue now record = decide (g.connective = .and) := by
  obtain ⟨id, connective, conditions, groups⟩ := g
  obtain ⟨hconditions, hgroups⟩ : conditions = [] ∧ groups = [] := by
    simpa [isVacuous] using hg
  subst hconditions hgroups
  cases connective with
  | and => rfl
  | or => rfl

end Group

/-- Validation and evaluation see the same operators and the same empty groups. At every path of a tree, an
error about the operator of a condition is reported exactly if evaluation turns the condition down on its
operator, for every record at every reference time, so that it holds for none; any other condition gets the
answer of its operator, by the name that the type of the field has for it. And a group is reported as empty
exactly if it has no children and so holds for every record under AND and for none under OR. -/
theorem Group.validate_agrees (catalogue : Catalogue) {t g : Group} {path : List Nat}
    (hg : t.getAt (path.map Int.ofNat) = .ok g) :
    (∀ c ∈ g.conditions,
      (t.ReportsOperator catalogue path c ↔ ∀ (clock : Clock) (systemTime : DateTime) (record : Value),
        ((Evaluator.mk catalogue clock systemTime).judge c record).1.isRefusal = true) ∧
      (t.ReportsOperator catalogue path c → ∀ (clock : Clock) (systemTime : DateTime) (record : Value),
        ((Evaluator.mk catalogue clock systemTime).judge c record).1.holds = false) ∧
      (¬ t.ReportsOperator catalogue path c → ∃ operator canonical, c.operator = .known operator ∧
        catalogue.canonicalOperator? c.field operator = some canonical ∧
        ∀ (clock : Clock) (systemTime : DateTime) (record : Value),
          ((Evaluator.mk catalogue clock systemTime).judge c record).1 =
            .ofAnswer (Comparison.apply canonical (catalogue.fieldType c.field) (record.resolve c.field)
              c.value c.value2 (clock.read systemTime).1))) ∧
      (t.ReportsEmpty catalogue path ↔ (g.conditions = [] ∧ g.groups = []) ∧
        ∀ (clock : Clock) (systemTime : DateTime) (record : Value),
          ((Evaluator.mk catalogue clock systemTime).evaluate g record).1 = decide (g.connective = .and)) := by
  refine ⟨fun c hc => ⟨?_, ?_, ?_⟩, ?_⟩
  · rw [reportsOperator_iff hg hc]
    constructor
    · exact fun h clock systemTime record => Condition.isRefusal_verdict.2 h
    · exact fun h => Condition.isRefusal_verdict.1 (h .system default .null)
  · rw [reportsOperator_iff hg hc]
    intro h clock systemTime record
    exact Verdict.holds_of_isRefusal (Condition.isRefusal_verdict.2 h)
  · rw [reportsOperator_iff hg hc, not_not]
    rintro ⟨operator, hoperator, hallowed⟩
    obtain ⟨canonical, hcanonical⟩ := Option.isSome_iff_exists.1 hallowed
    exact ⟨operator, canonical, hoperator, hcanonical, fun clock systemTime record =>
      Condition.verdict_of_canonical hoperator hcanonical⟩
  · have hvacuous : g.isVacuous = true ↔ g.conditions = [] ∧ g.groups = [] := by
      simp [isVacuous]
    rw [reportsEmpty_iff hg, ← hvacuous]
    constructor
    · exact fun h => ⟨h, fun clock systemTime record => holds_of_isVacuous h⟩
    · exact fun h => h.1

/-- In a tree over contacts an operator without a meaning is reported below the root, and the condition holds
for no contact. Next to it a group is reported as empty, and it holds for no contact either. -/
theorem Group.validate_agrees_contact :
    let like : Condition := ⟨"c", "email", .unknown "like", .text "a", .null⟩
    let named : Group := ⟨"g", .and, [like], []⟩
    let empty : Group := ⟨"h", .or, [], []⟩
    let t : Group := ⟨"t", .and, [], [named, empty]⟩
    (t.ReportsOperator .contact [0] like ∧ ∀ (clock : Clock) (systemTime : DateTime) (record : Value),
        ((Evaluator.mk .contact clock systemTime).judge like record).1.holds = false) ∧
      (t.ReportsEmpty .contact [1] ∧ ∀ (clock : Clock) (systemTime : DateTime) (record : Value),
        ((Evaluator.mk .contact clock systemTime).evaluate empty record).1 = false) := by
  intro like named empty t
  have hnamed : t.getAt ([0].map Int.ofNat) = .ok named := rfl
  have hempty : t.getAt ([1].map Int.ofNat) = .ok empty := rfl
  have hreported : t.ReportsOperator .contact [0] like :=
    ⟨⟨[0], "c", .unknownOperator "like"⟩, by decide, rfl, rfl, rfl, rfl⟩
  have hwarned : t.ReportsEmpty .contact [1] :=
    ⟨⟨[1], "h", .emptyGroup .or⟩, by decide, rfl, rfl, .or, rfl⟩
  have hlike := (Group.validate_agrees .contact hnamed).1 like List.mem_cons_self
  exact ⟨⟨hreported, hlike.2.1 hreported⟩, hwarned,
    ((Group.validate_agrees .contact hempty).2.1 hwarned).2⟩

end Segmentation
