import Segmentation.Proofs.Editing.Offered
import Segmentation.Proofs.Evaluation.Independence

/-!
# The two names of a comparison of dates

* `Operator.Synonym`: greater than and after, less than and before are the names of one comparison each.
* `Condition.Renamed`, `Group.Renamed`: conditions and trees that differ in such names at most, on date fields.
* `Catalogue.canonicalOperator?_synonym`: a date field has one name for both, or allows neither.
* `Condition.Renamed.verdict`, `Condition.Renamed.defects`: so the same comes of renamed conditions, up to the
  name that a refusal or a defect quotes.
* `Group.Renamed.validate`: node by node the same is reported of renamed trees.
* `Catalogue.dateNames_interchangeable`: evaluation, validation and edits do not tell the names apart.
-/

namespace Segmentation

open Calendar

/-! ## Two names for one comparison -/

/-- The operators are the two names of one comparison of dates. -/
inductive Operator.Synonym : Operator → Operator → Prop where
  | later : Synonym .greaterThan .after
  | earlier : Synonym .lessThan .before
  | symm {o o' : Operator} (h : Synonym o o') : Synonym o' o

namespace Operator.Synonym

variable {o o' : Operator}

theorem onDates_eq (h : o.Synonym o') : o'.onDates = o.onDates := by
  induction h with
  | later => rfl
  | earlier => rfl
  | symm _ ih => exact ih.symm

/-- Both names belong to comparisons with one value and no upper bound. -/
theorem takes (h : o.Synonym o') :
    (o.takesValue = true ∧ o.takesSecondValue = false) ∧ o'.takesValue = true ∧ o'.takesSecondValue = false := by
  induction h with
  | later => decide
  | earlier => decide
  | symm _ ih => exact ih.symm

end Operator.Synonym

/-- On date fields an operator is called neither greater than nor less than. -/
theorem Operator.onDates_ne (operator : Operator) :
    operator.onDates ≠ .greaterThan ∧ operator.onDates ≠ .lessThan := by
  cases operator <;> decide

namespace Catalogue

variable {catalogue : Catalogue} {key : String} {o o' : Operator}

/-- A date field allows an operator under both of its names or under neither. -/
theorem canonicalOperator?_synonym (hdate : catalogue.fieldType key = .date) (h : o.Synonym o') :
    catalogue.canonicalOperator? key o' = catalogue.canonicalOperator? key o := by
  unfold canonicalOperator?
  dsimp only
  rw [if_pos hdate, if_pos hdate, h.onDates_eq]

/-- The name that a field has for an operator is looked up once. -/
theorem canonicalOperator?_idempotent (catalogue : Catalogue) (key : String) (operator : Operator) :
    (catalogue.canonicalOperator? key operator).bind (catalogue.canonicalOperator? key) =
      catalogue.canonicalOperator? key operator := by
  cases hcanonical : catalogue.canonicalOperator? key operator with
  | none => rfl
  | some canonical => exact canonicalOperator?_canonical hcanonical

/-- The name that a date field has for an operator is neither greater than nor less than. -/
theorem canonicalOperator?_ne {canonical : Operator} (hdate : catalogue.fieldType key = .date)
    (h : catalogue.canonicalOperator? key o = some canonical) :
    canonical ≠ .greaterThan ∧ canonical ≠ .lessThan := by
  obtain ⟨hcanonical, -⟩ := canonicalOperator?_eq_some.1 h
  rw [if_pos hdate] at hcanonical
  rw [hcanonical]
  exact o.onDates_ne

end Catalogue

/-! ## What is said under either name -/

/-- The verdicts are the same up to the name of the operator that was turned down. -/
inductive Verdict.Renamed : Verdict → Verdict → Prop where
  | same (v : Verdict) : Renamed v v
  | notAllowed {o o' : Operator} (h : o.Synonym o') (type : FieldType) :
      Renamed (.notAllowed o type) (.notAllowed o' type)

theorem Verdict.Renamed.holds_eq {v v' : Verdict} (h : v.Renamed v') : v'.holds = v.holds := by
  cases h with
  | same => rfl
  | notAllowed _ _ => rfl

/-- The defects are the same up to the name of the operator that they quote. -/
inductive Defect.Renamed : Defect → Defect → Prop where
  | same (defect : Defect) : Renamed defect defect
  | notAllowed {o o' : Operator} (h : o.Synonym o') (type : FieldType) (field : String) :
      Renamed (.operatorNotAllowed o type field) (.operatorNotAllowed o' type field)
  | noValue {o o' : Operator} (h : o.Synonym o') (field : String) :
      Renamed (.noValue field o) (.noValue field o')

theorem Defect.Renamed.severity_eq {d d' : Defect} (h : d.Renamed d') : d'.severity = d.severity := by
  cases h with
  | same => rfl
  | notAllowed _ _ _ => rfl
  | noValue _ _ => rfl

/-- The issues are about one node and say the same up to the name of the operator that they quote. -/
structure Issue.Renamed (issue issue' : Issue) : Prop where
  path : issue'.path = issue.path
  nodeId : issue'.nodeId = issue.nodeId
  severity : issue'.severity = issue.severity
  defect : issue.defect.Renamed issue'.defect

/-- The conditions are the same, or they are one comparison of a date field under both of its names. -/
inductive Condition.Renamed (catalogue : Catalogue) : Condition → Condition → Prop where
  | same (c : Condition) : Renamed catalogue c c
  | dates {id field : String} {o o' : Operator} {value value2 : Operand} (h : o.Synonym o')
      (hdate : catalogue.fieldType field = .date) :
      Renamed catalogue ⟨id, field, .known o, value, value2⟩ ⟨id, field, .known o', value, value2⟩

/-- The trees are the same up to the names of comparisons of date fields. -/
inductive Group.Renamed (catalogue : Catalogue) : Group → Group → Prop where
  | node {g g' : Group} (hid : g'.id = g.id) (hconnective : g'.connective = g.connective)
      (hconditions : List.Forall₂ (Condition.Renamed catalogue) g.conditions g'.conditions)
      (hgroups : List.Forall₂ (Group.Renamed catalogue) g.groups g'.groups) : Renamed catalogue g g'

/-! ## Conditions -/

namespace Condition

variable {catalogue : Catalogue} {c c' : Condition}

theorem Renamed.id_eq (h : c.Renamed catalogue c') : c'.id = c.id := by
  cases h with
  | same => rfl
  | dates _ _ => rfl

theorem Renamed.admissible_iff (h : c.Renamed catalogue c') :
    c'.Admissible catalogue ↔ c.Admissible catalogue := by
  cases h with
  | same => rfl
  | dates hnames hdate =>
    simp only [Admissible, OperatorName.known.injEq, exists_eq_left']
    rw [Catalogue.canonicalOperator?_synonym hdate hnames]

/-- Renamed conditions get the same verdict, up to the name that a refusal quotes. -/
theorem Renamed.verdict (h : c.Renamed catalogue c') (now : DateTime) (record : Value) :
    (c.verdict catalogue now record).Renamed (c'.verdict catalogue now record) := by
  cases h with
  | same => exact .same _
  | @dates id field o o' value value2 hnames hdate =>
    have hcanonical := Catalogue.canonicalOperator?_synonym hdate hnames
    unfold Condition.verdict admitted
    dsimp only
    rw [hcanonical]
    cases catalogue.canonicalOperator? field o with
    | none => exact .notAllowed hnames _
    | some canonical => exact .same _

/-- The same is wrong with renamed conditions, up to the name that a defect quotes. -/
theorem Renamed.defects (h : c.Renamed catalogue c') :
    List.Forall₂ Defect.Renamed (c.defects catalogue) (c'.defects catalogue) := by
  cases h with
  | same => exact List.forall₂_same.2 fun defect _ => .same defect
  | @dates id field o o' value value2 hnames hdate =>
    have hcanonical := Catalogue.canonicalOperator?_synonym hdate hnames
    obtain ⟨⟨hvalue, hvalue2⟩, hvalue', hvalue2'⟩ := hnames.takes
    unfold Condition.defects operatorDefects operandDefects
    dsimp only
    rw [hcanonical, hvalue, hvalue2, hvalue', hvalue2']
    refine List.rel_append (List.forall₂_same.2 fun defect _ => .same defect) ?_
    cases catalogue.canonicalOperator? field o with
    | none => exact .cons (.notAllowed hnames _ _) .nil
    | some canonical =>
      dsimp only
      cases value.isMissing with
      | true => exact .cons (.noValue hnames _) .nil
      | false => exact .nil

end Condition

/-! ## Trees -/

/-- The nodes stand at the same place, and the same is wrong with them up to the names that are quoted. -/
structure Node.Renamed (n n' : Node) : Prop where
  path : n'.path = n.path
  id : n'.id = n.id
  defects : List.Forall₂ Defect.Renamed n.defects n'.defects

theorem Node.Renamed.issues {n n' : Node} (h : n.Renamed n') (seen : List String) :
    List.Forall₂ Issue.Renamed (n.issues seen) (n'.issues seen) := by
  obtain ⟨path, id, defects⟩ := n
  obtain ⟨path', id', defects'⟩ := n'
  obtain ⟨rfl, rfl, hdefects⟩ := h
  unfold Node.issues
  dsimp only
  rw [List.forall₂_map_left_iff, List.forall₂_map_right_iff]
  refine List.Forall₂.imp (fun d d' hd => ⟨rfl, rfl, hd.severity_eq, hd⟩) ?_
  exact List.rel_append (List.forall₂_same.2 fun defect _ => .same defect) hdefects

/-- The loop over renamed nodes has seen the same identifiers and reports the same, up to the names that are
quoted. -/
theorem issuesFrom_renamed {ns ns' : List Node} (h : List.Forall₂ Node.Renamed ns ns') (seen : List String) :
    List.Forall₂ Issue.Renamed (issuesFrom seen ns) (issuesFrom seen ns') := by
  induction h generalizing seen with
  | nil => exact .nil
  | cons hn _ ih =>
    rw [issuesFrom, issuesFrom, hn.id]
    exact List.rel_append (hn.issues seen) (ih _)

namespace Group

variable {catalogue : Catalogue} {t t' g g' : Group}

theorem Renamed.alike (h : t.Renamed catalogue t') : t.Alike (Condition.Renamed catalogue) t' := by
  induction t generalizing t' with
  | node t ih =>
    cases h with
    | node _ hconnective hconditions hgroups =>
      refine .node hconnective hconditions (List.forall₂_iff_zip.2 ⟨hgroups.length_eq, fun hzip => ?_⟩)
      exact ih _ (List.of_mem_zip hzip).1 (List.forall₂_zip hgroups hzip)

/-- Renamed groups have children of the same kinds. -/
theorem Renamed.isVacuous_eq (h : g.Renamed catalogue g') : g'.isVacuous = g.isVacuous := by
  obtain ⟨id, connective, conditions, groups⟩ := g
  obtain ⟨id', connective', conditions', groups'⟩ := g'
  cases h with
  | node hid hconnective hconditions hgroups =>
    dsimp only at hconditions hgroups
    unfold isVacuous
    dsimp only
    cases hconditions with
    | cons _ _ => rfl
    | nil =>
      cases hgroups with
      | cons _ _ => rfl
      | nil => rfl

theorem Renamed.nodesAt (h : g.Renamed catalogue g') (path : List Nat) :
    List.Forall₂ Node.Renamed (g.nodesAt catalogue path) (g'.nodesAt catalogue path) := by
  have hvacuous := h.isVacuous_eq
  cases h with
  | node hid hconnective hconditions hgroups =>
    have hdefects : g'.defects = g.defects := by
      rw [Group.defects, Group.defects, hvacuous, hconnective]
    unfold Group.nodesAt
    rw [hid, hdefects]
    refine .cons ⟨rfl, rfl, List.forall₂_same.2 fun defect _ => .same defect⟩ ?_
    rw [List.forall₂_map_left_iff, List.forall₂_map_right_iff]
    exact hconditions.imp fun c c' hc => ⟨rfl, hc.id_eq, hc.defects⟩

/-- A walk through renamed trees comes to renamed groups under the same paths. -/
theorem Renamed.preorderFrom (h : t.Renamed catalogue t') (path : List Nat) :
    List.Forall₂ (fun entry entry' => entry'.1 = entry.1 ∧ entry.2.Renamed catalogue entry'.2)
      (preorderFrom path t) (Group.preorderFrom path t') := by
  induction t generalizing t' path with
  | node t ih =>
    have hsubs : ∀ (index : Nat) (gs gs' : List Group), (∀ sub ∈ gs, sub ∈ t.groups) →
        List.Forall₂ (Group.Renamed catalogue) gs gs' →
        List.Forall₂ (fun entry entry' => entry'.1 = entry.1 ∧ entry.2.Renamed catalogue entry'.2)
          (preordersFrom path index gs) (preordersFrom path index gs') := by
      intro index gs gs' hgs hsame
      induction hsame generalizing index with
      | nil => exact .nil
      | @cons sub sub' gs gs' hsub _ ihs =>
        rw [List.forall_mem_cons] at hgs
        rw [preordersFrom, preordersFrom]
        exact List.rel_append (ih sub hgs.1 hsub _) (ihs _ hgs.2)
    rw [preorderFrom_eq, preorderFrom_eq]
    refine .cons ⟨rfl, h⟩ ?_
    cases h with
    | node _ _ _ hgroups => exact hsubs 0 t.groups t'.groups (fun _ hsub => hsub) hgroups

/-- Node by node the same is reported of renamed trees, up to the names that are quoted. -/
theorem Renamed.validate (h : t.Renamed catalogue t') :
    List.Forall₂ Issue.Renamed (t.validate catalogue) (t'.validate catalogue) := by
  refine issuesFrom_renamed (List.rel_flatMap (h.preorderFrom []) ?_) []
  rintro ⟨path, g⟩ ⟨path', g'⟩ ⟨rfl, hg⟩
  exact hg.nodesAt _

end Group

/-! ## Edits -/

namespace Condition

variable {catalogue : Catalogue} {c d : Condition}

/-- An edit stores an operator under the name that the field has for it. -/
theorem changeOperator_stores {name : String} (h : c.changeOperator catalogue name = .ok d) :
    ∃ operator canonical, Operator.named? name = some operator ∧
      catalogue.canonicalOperator? c.field operator = some canonical ∧ d.operator = .known canonical := by
  unfold changeOperator at h
  split at h
  · rename_i canonical hcanonical
    cases h
    obtain ⟨operator, hnamed, hcanonical⟩ := Option.bind_eq_some_iff.1 hcanonical
    exact ⟨operator, canonical, hnamed, hcanonical, rfl⟩
  · cases h

/-- Under either name of a comparison the edit of a date condition leads to the same condition, or it is
refused. -/
theorem changeOperator_synonym {o o' : Operator} (h : o.Synonym o') (hdate : catalogue.fieldType c.field = .date) :
    (∃ d, c.changeOperator catalogue o.name = .ok d ∧ c.changeOperator catalogue o'.name = .ok d) ∨
      (c.changeOperator catalogue o.name = .error (.notValid o.name c.field) ∧
        c.changeOperator catalogue o'.name = .error (.notValid o'.name c.field)) := by
  have hcanonical := Catalogue.canonicalOperator?_synonym hdate h
  unfold changeOperator
  rw [Operator.named?_name, Operator.named?_name, Option.bind_some, Option.bind_some, hcanonical]
  cases catalogue.canonicalOperator? c.field o with
  | none => exact .inr ⟨rfl, rfl⟩
  | some canonical => exact .inl ⟨_, rfl, rfl⟩

end Condition

/-- The two names of a comparison of dates are one operator, in every catalogue. Trees that differ in such
names hold for the same records at every time, and the same is reported of them, node by node. Conditions that
differ so get the same verdict, and an error about the operator of one is reported wherever it stands exactly
if it is of the other. Edits accept both names or neither and store the same. The name that a field has for an
operator is its own, and on a date field no edit stores greater than or less than. -/
theorem Catalogue.dateNames_interchangeable (catalogue : Catalogue) :
    (∀ t t' : Group, t.Renamed catalogue t' →
      (∀ (clock : Clock) (systemTime : DateTime) (record : Value),
        ((Evaluator.mk catalogue clock systemTime).evaluate t' record).1 =
          ((Evaluator.mk catalogue clock systemTime).evaluate t record).1) ∧
      List.Forall₂ Issue.Renamed (t.validate catalogue) (t'.validate catalogue)) ∧
    (∀ c c' : Condition, c.Renamed catalogue c' →
      (∀ (clock : Clock) (systemTime : DateTime) (record : Value),
        ((Evaluator.mk catalogue clock systemTime).judge c record).1.Renamed
            ((Evaluator.mk catalogue clock systemTime).judge c' record).1 ∧
          ((Evaluator.mk catalogue clock systemTime).judge c' record).1.holds =
            ((Evaluator.mk catalogue clock systemTime).judge c record).1.holds) ∧
      ∀ (t t' g g' : Group) (path path' : List Nat),
        t.getAt (path.map Int.ofNat) = .ok g → c ∈ g.conditions →
        t'.getAt (path'.map Int.ofNat) = .ok g' → c' ∈ g'.conditions →
        (t.ReportsOperator catalogue path c ↔ t'.ReportsOperator catalogue path' c')) ∧
    (∀ (o o' : Operator) (c : Condition), o.Synonym o' → catalogue.fieldType c.field = .date →
      (∃ d, c.changeOperator catalogue o.name = .ok d ∧ c.changeOperator catalogue o'.name = .ok d) ∨
        (c.changeOperator catalogue o.name = .error (.notValid o.name c.field) ∧
          c.changeOperator catalogue o'.name = .error (.notValid o'.name c.field))) ∧
    (∀ (key : String) (operator : Operator),
      (catalogue.canonicalOperator? key operator).bind (catalogue.canonicalOperator? key) =
        catalogue.canonicalOperator? key operator) ∧
    ∀ (name : String) (c d : Condition), catalogue.fieldType c.field = .date →
      c.changeOperator catalogue name = .ok d →
        d.operator ≠ .known .greaterThan ∧ d.operator ≠ .known .lessThan := by
  refine ⟨fun t t' ht => ⟨fun clock systemTime record => ?_, ht.validate⟩, fun c c' hc => ⟨?_, ?_⟩,
    fun o o' c h hdate => Condition.changeOperator_synonym h hdate, catalogue.canonicalOperator?_idempotent, ?_⟩
  · rw [Evaluator.evaluate_eq_holds, Evaluator.evaluate_eq_holds]
    exact ht.alike.holds_eq fun c _ c' hc => (hc.verdict _ record).holds_eq
  · intro clock systemTime record
    have hverdict := hc.verdict (clock.read systemTime).1 record
    exact ⟨hverdict, hverdict.holds_eq⟩
  · intro t t' g g' path path' hg hmem hg' hmem'
    rw [Group.reportsOperator_iff hg hmem, Group.reportsOperator_iff hg' hmem', hc.admissible_iff]
  · intro name c d hdate hd
    obtain ⟨operator, canonical, -, hcanonical, hstored⟩ := Condition.changeOperator_stores hd
    obtain ⟨hgreater, hless⟩ := canonicalOperator?_ne hdate hcanonical
    rw [hstored]
    exact ⟨fun h => hgreater (OperatorName.known.inj h), fun h => hless (OperatorName.known.inj h)⟩

/-- Two trees over contacts with the names exchanged at two depths, next to a condition whose operator is turned
down under either tree, and an edit that is asked for by the general name. -/
theorem Catalogue.dateNames_interchangeable_contact :
    let e : Evaluator := ⟨.contact, .fixed (.midnight { year := 2026, month := 10, day := 17 }), default⟩
    let since : Condition := ⟨"a", "created_at", .known .greaterThan, .text "2026-01-01", .null⟩
    let since' : Condition := ⟨"a", "created_at", .known .after, .text "2026-01-01", .null⟩
    let inner : Group := ⟨"g", .or, [⟨"b", "updated_at", .known .before, .text "2026-02-01", .null⟩,
      ⟨"c", "email", .known .greaterThan, .text "ann", .null⟩], []⟩
    let inner' : Group := ⟨"g", .or, [⟨"b", "updated_at", .known .lessThan, .text "2026-02-01", .null⟩,
      ⟨"c", "email", .known .greaterThan, .text "ann", .null⟩], []⟩
    let t : Group := ⟨"t", .and, [since], [inner]⟩
    let t' : Group := ⟨"t", .and, [since'], [inner']⟩
    let record : Value := .ofFields [("created_at", .text "2026-01-02"), ("updated_at", .text "2026-01-31")]
    (t.Renamed .contact t' ∧ since.Renamed .contact since' ∧ Catalogue.contact.fieldType "created_at" = .date) ∧
      (e.evaluate t' record).1 = (e.evaluate t record).1 ∧ (e.evaluate t record).1 = true ∧
      List.Forall₂ Issue.Renamed (t.validate .contact) (t'.validate .contact) ∧
      (t.ReportsOperator .contact [] since ↔ t'.ReportsOperator .contact [] since') ∧
      ∃ d, since'.changeOperator .contact "greater_than" = .ok d ∧ since'.changeOperator .contact "after" = .ok d ∧
        d.operator ≠ .known .greaterThan := by
  intro e since since' inner inner' t t' record
  have hsince : since.Renamed .contact since' := .dates .later (by decide)
  have hinner : inner.Renamed .contact inner' :=
    .node rfl rfl (.cons (.dates (.symm .earlier) (by decide)) (.cons (.same _) .nil)) .nil
  have htrees : t.Renamed .contact t' := .node rfl rfl (.cons hsince .nil) (.cons hinner .nil)
  have hdate : Catalogue.contact.fieldType since'.field = .date := by decide
  obtain ⟨hsame, hconditions, hedits, -, hstored⟩ := dateNames_interchangeable .contact
  obtain ⟨hevaluate, hreports⟩ := hsame t t' htrees
  have hreported := (hconditions since since' hsince).2 t t' t t' [] [] rfl List.mem_cons_self rfl List.mem_cons_self
  have hallowed : (since'.changeOperator .contact "after").isOk = true := by decide
  have haccepted : ∃ d, since'.changeOperator .contact "greater_than" = .ok d ∧
      since'.changeOperator .contact "after" = .ok d := by
    rcases hedits .greaterThan .after since' .later hdate with h | ⟨-, hrefused⟩
    · exact h
    · rw [show since'.changeOperator .contact "after" = _ from hrefused] at hallowed
      cases hallowed
  obtain ⟨d, hgeneral, hown⟩ := haccepted
  exact ⟨⟨htrees, hsince, hdate⟩, hevaluate .. , by decide +kernel, hreports, hreported, d, hgeneral, hown,
    (hstored _ since' d hdate hgeneral).1⟩

end Segmentation
