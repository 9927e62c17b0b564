import Segmentation.Proofs.Rule.Order
import Segmentation.Proofs.Validation.Agreement
import Mathlib.Data.Finset.Card

/-!
# What validation reports, and in which order

* `Finding`, `Group.Defective`: a defect of the node at an address, and the ones that a tree has.
* `Finding.Before`: findings go by their addresses and, for one node, by the rank of the defect.
* `mem_findingsFrom`, `findingsFrom_pairwise`: the loop over the nodes with the identifiers seen so far finds
  the defects of each node, and that its identifier stands before it.
* `count_issuesFrom`: the loop reports each identifier as often as it stands there, less once.
* `Group.validate_exact`: the issues of a tree are its findings, in order.
-/

namespace Segmentation

/-- A defect of the node at an address. -/
structure Finding where
  address : Address
  nodeId : String
  defect : Defect

/-- The place of a defect among those of one node. -/
def Defect.rank : Defect → Nat
  | duplicateId _ => 0
  | emptyGroup _ => 1
  | unknownField _ => 2
  | unknownOperator _ | operatorNotAllowed .. => 3
  | noValue .. => 4
  | noUpperBound _ => 5

namespace Finding

/-- The first finding is about an earlier node, or about the same one and of a lower rank. -/
def Before (f g : Finding) : Prop :=
  f.address.Before g.address ∨ f.address = g.address ∧ f.defect.rank < g.defect.rank

/-- What is reported of a finding. -/
def issue (f : Finding) : Issue :=
  ⟨f.address.path, f.nodeId, f.defect⟩

end Finding

/-- What is wrong with a tree: a node has the identifier of an earlier one, a group has no children, or
something is wrong with a condition by itself. -/
inductive Group.Defective (catalogue : Catalogue) (t : Group) : Finding → Prop where
  | repeated {a b : Address} {id : String} (ha : t.idAt? a = some id) (hb : t.idAt? b = some id)
      (hbefore : b.Before a) : Defective catalogue t ⟨a, id, .duplicateId id⟩
  | empty {path : List Nat} {g : Group} (hg : t.subAt? path = some g)
      (hempty : g.conditions = [] ∧ g.groups = []) :
      Defective catalogue t ⟨⟨path, none⟩, g.id, .emptyGroup g.connective⟩
  | flawed {path : List Nat} {g : Group} {i : Nat} {c : Condition} {defect : Defect}
      (hg : t.subAt? path = some g) (hc : g.conditions[i]? = some c) (hflaw : c.Flaw catalogue defect) :
      Defective catalogue t ⟨⟨path, some i⟩, c.id, defect⟩

/-! ## The defects of one node -/

theorem Defect.severity_eq_error {defect : Defect} :
    defect.severity = .error ↔ (∃ id, defect = .duplicateId id) ∨ (∃ name, defect = .unknownOperator name) ∨
      ∃ operator type field, defect = .operatorNotAllowed operator type field := by
  cases defect <;> simp [severity]

/-- The defects stand in the order of their ranks, and a repeated identifier would come first. -/
def Ranked (ds : List Defect) : Prop :=
  ∀ id, (Defect.duplicateId id :: ds).Pairwise fun d e => d.rank < e.rank

theorem Ranked.ne_duplicateId {ds : List Defect} (h : Ranked ds) {d : Defect} (hd : d ∈ ds) (id : String) :
    d ≠ .duplicateId id := by
  rintro rfl
  exact lt_irrefl _ (List.rel_of_pairwise_cons (h id) hd)

theorem Group.ranked_defects (g : Group) : Ranked g.defects := by
  intro id
  unfold defects
  split <;> simp [Defect.rank]

theorem Condition.ranked_defects (catalogue : Catalogue) (c : Condition) : Ranked (c.defects catalogue) := by
  intro id
  have hoperands : ∀ operator, (c.operandDefects operator).Pairwise (fun d e => d.rank < e.rank) ∧
      ∀ d ∈ c.operandDefects operator, 2 < d.rank := by
    intro operator
    unfold operandDefects
    split <;> split <;> simp [Defect.rank]
  have hoperator : (c.operatorDefects catalogue).Pairwise (fun d e => d.rank < e.rank) ∧
      ∀ d ∈ c.operatorDefects catalogue, 2 < d.rank := by
    unfold operatorDefects
    split
    · simp [Defect.rank]
    · split
      · simp [Defect.rank]
      · exact hoperands _
  have hpositive : ∀ d ∈ c.operatorDefects catalogue, 0 < d.rank := fun d hd => by
    have := hoperator.2 d hd
    omega
  unfold defects
  split
  · exact .cons (by simpa [Defect.rank] using hpositive) (.cons hoperator.2 hoperator.1)
  · exact .cons hpositive hoperator.1

theorem Group.Places.ranked_defects {catalogue : Catalogue} {t : Group} {a : Address} {n : Node}
    (h : t.Places catalogue a n) : Ranked n.defects := by
  cases h with
  | @group _ g _ => exact g.ranked_defects
  | @condition _ _ _ c _ _ => exact c.ranked_defects catalogue

/-! ## Findings -/

/-- The findings about the node at an address, given the identifiers before it. -/
def Node.findings (seen : List String) (a : Address) (n : Node) : List Finding :=
  ((if n.id ∈ seen then [Defect.duplicateId n.id] else []) ++ n.defects).map (⟨a, n.id, ·⟩)

/-- The findings about nodes, given the identifiers before them. -/
def findingsFrom (seen : List String) : List (Address × Node) → List Finding
  | [] => []
  | (a, n) :: ns => n.findings seen a ++ findingsFrom (n.id :: seen) ns

section Findings

variable {seen : List String} {ns : List (Address × Node)} {f : Finding}

theorem map_issue_findingsFrom (hpath : ∀ entry ∈ ns, entry.2.path = entry.1.path) :
    (findingsFrom seen ns).map Finding.issue = issuesFrom seen (ns.map Prod.snd) := by
  induction ns generalizing seen with
  | nil => rfl
  | cons entry ns ih =>
    obtain ⟨a, n⟩ := entry
    have hn : n.path = a.path := hpath _ List.mem_cons_self
    rw [findingsFrom, List.map_append, ih fun entry hentry => hpath entry (List.mem_cons_of_mem _ hentry),
      List.map_cons, issuesFrom, Node.findings, Node.issues, List.map_map, hn]
    rfl

theorem mem_findings {a : Address} {n : Node} :
    f ∈ n.findings seen a ↔ f.address = a ∧ f.nodeId = n.id ∧
      (f.defect ∈ n.defects ∨ f.defect = .duplicateId n.id ∧ n.id ∈ seen) := by
  obtain ⟨b, id, defect⟩ := f
  simp only [Node.findings, List.mem_map, List.mem_append, List.mem_ite_nil_right, List.mem_singleton,
    Finding.mk.injEq]
  constructor
  · rintro ⟨d, ⟨hseen, rfl⟩ | hd, rfl, rfl, rfl⟩
    · exact ⟨rfl, rfl, .inr ⟨rfl, hseen⟩⟩
    · exact ⟨rfl, rfl, .inl hd⟩
  · rintro ⟨rfl, rfl, hd | ⟨rfl, hseen⟩⟩
    · exact ⟨defect, .inr hd, rfl, rfl, rfl⟩
    · exact ⟨_, .inl ⟨hseen, rfl⟩, rfl, rfl, rfl⟩

/-- What is found in nodes that are listed by their addresses. An identifier that was seen before is one from
outside of the list or from an earlier address of it. -/
theorem mem_findingsFrom (hns : ns.Pairwise fun a b => a.1.Before b.1) :
    f ∈ findingsFrom seen ns ↔ ∃ n, (f.address, n) ∈ ns ∧ f.nodeId = n.id ∧
      (f.defect ∈ n.defects ∨ f.defect = .duplicateId n.id ∧
        (n.id ∈ seen ∨ ∃ b m, (b, m) ∈ ns ∧ b.Before f.address ∧ m.id = n.id)) := by
  induction ns generalizing seen with
  | nil => simp [findingsFrom]
  | cons entry ns ih =>
    obtain ⟨a, n⟩ := entry
    rw [List.pairwise_cons] at hns
    rw [findingsFrom, List.mem_append, mem_findings, ih hns.2]
    constructor
    · rintro (⟨rfl, hid, hd⟩ | ⟨m, hm, hid, hd⟩)
      · exact ⟨n, List.mem_cons_self, hid, hd.imp_right fun h => ⟨h.1, .inl h.2⟩⟩
      · refine ⟨m, List.mem_cons_of_mem _ hm, hid, hd.imp_right fun ⟨hd, hseen⟩ => ⟨hd, ?_⟩⟩
        rcases hseen with hseen | ⟨b, l, hl, hbefore⟩
        · rcases List.mem_cons.1 hseen with hsame | hseen
          · exact .inr ⟨a, n, List.mem_cons_self, hns.1 _ hm, hsame.symm⟩
          · exact .inl hseen
        · exact .inr ⟨b, l, List.mem_cons_of_mem _ hl, hbefore⟩
    · rintro ⟨m, hm, hid, hd⟩
      rcases List.mem_cons.1 hm with hm | hm
      · obtain ⟨rfl, rfl⟩ := Prod.mk.inj hm
        refine .inl ⟨rfl, hid, hd.imp_right fun ⟨hd, hseen⟩ => ⟨hd, ?_⟩⟩
        -- no address of the list comes before the first one
        rcases hseen with hseen | ⟨b, l, hl, hbefore, -⟩
        · exact hseen
        · rcases List.mem_cons.1 hl with hl | hl
          · exact absurd ((Prod.mk.inj hl).1 ▸ hbefore) (Address.not_before_self _)
          · exact absurd hbefore (hns.1 _ hl).asymm
      · refine .inr ⟨m, hm, hid, hd.imp_right fun ⟨hd, hseen⟩ => ⟨hd, ?_⟩⟩
        rcases hseen with hseen | ⟨b, l, hl, hbefore, hsame⟩
        · exact .inl (List.mem_cons_of_mem _ hseen)
        · rcases List.mem_cons.1 hl with hl | hl
          · obtain ⟨-, rfl⟩ := Prod.mk.inj hl
            exact .inl (List.mem_cons.2 (.inl hsame.symm))
          · exact .inr ⟨b, l, hl, hbefore, hsame⟩

theorem findings_pairwise {a : Address} {n : Node} (hn : Ranked n.defects) :
    (n.findings seen a).Pairwise Finding.Before := by
  rw [Node.findings, List.pairwise_map]
  have hsub : ((if n.id ∈ seen then [Defect.duplicateId n.id] else []) ++ n.defects).Sublist
      (.duplicateId n.id :: n.defects) := by
    split
    · exact List.Sublist.refl _
    · exact List.sublist_cons_self _ _
  exact ((hn n.id).sublist hsub).imp fun h => .inr ⟨rfl, h⟩

theorem findingsFrom_pairwise (hns : ns.Pairwise fun a b => a.1.Before b.1)
    (hranked : ∀ entry ∈ ns, Ranked entry.2.defects) : (findingsFrom seen ns).Pairwise Finding.Before := by
  induction ns generalizing seen with
  | nil => exact .nil
  | cons entry ns ih =>
    obtain ⟨a, n⟩ := entry
    rw [List.pairwise_cons] at hns
    rw [findingsFrom, List.pairwise_append]
    refine ⟨findings_pairwise (hranked _ List.mem_cons_self),
      ih hns.2 fun entry hentry => hranked entry (List.mem_cons_of_mem _ hentry), fun f hf g hg => .inl ?_⟩
    obtain ⟨m, hm, -⟩ := (mem_findingsFrom hns.2).1 hg
    rw [(mem_findings.1 hf).1]
    exact hns.1 _ hm

end Findings

/-! ## Repeated identifiers -/

/-- The issue is that an identifier stands in the tree before. -/
def Issue.isRepetition (i : Issue) : Bool :=
  i.defect = .duplicateId i.nodeId

theorem count_issues {seen : List String} {n : Node} (hn : Ranked n.defects) :
    (n.issues seen).countP Issue.isRepetition = if n.id ∈ seen then 1 else 0 := by
  have hown : (n.defects.map (Issue.mk n.path n.id ·)).countP Issue.isRepetition = 0 := by
    rw [List.countP_eq_zero]
    intro issue hissue
    obtain ⟨d, hd, rfl⟩ := List.mem_map.1 hissue
    simpa [Issue.isRepetition] using hn.ne_duplicateId hd n.id
  unfold Node.issues
  rw [List.map_append, List.countP_append, hown]
  split <;> simp [Issue.isRepetition]

/-- Each identifier of the nodes is reported as repeated as often as it stands there, but not the first time
unless it was seen before. -/
theorem count_issuesFrom (seen : List String) {ns : List Node} (hns : ∀ n ∈ ns, Ranked n.defects) :
    (issuesFrom seen ns).countP Issue.isRepetition +
      ((ns.map (·.id)).toFinset \ seen.toFinset).card = ns.length := by
  induction ns generalizing seen with
  | nil => simp [issuesFrom]
  | cons n ns ih =>
    have htail := ih (n.id :: seen) (List.forall_mem_cons.1 hns).2
    rw [issuesFrom, List.countP_append, count_issues (hns n List.mem_cons_self), List.map_cons,
      List.toFinset_cons, List.length_cons]
    rw [List.toFinset_cons] at htail
    by_cases hseen : n.id ∈ seen
    · have hmem : n.id ∈ seen.toFinset := List.mem_toFinset.2 hseen
      rw [Finset.insert_eq_of_mem hmem] at htail
      rw [if_pos hseen, Finset.insert_sdiff_of_mem _ hmem]
      omega
    · have hmem : n.id ∉ seen.toFinset := fun h => hseen (List.mem_toFinset.1 h)
      have hnew : n.id ∉ (ns.map (·.id)).toFinset \ insert n.id seen.toFinset := by simp
      have hrest : insert n.id (ns.map (·.id)).toFinset \ seen.toFinset =
          insert n.id ((ns.map (·.id)).toFinset \ insert n.id seen.toFinset) := by
        rw [Finset.insert_sdiff_of_notMem _ hmem]
        ext id
        simp only [Finset.mem_insert, Finset.mem_sdiff]
        tauto
      rw [if_neg hseen, hrest, Finset.card_insert_of_notMem hnew]
      omega

namespace Group

variable {catalogue : Catalogue} {t : Group}

/-- What is found in the nodes of a tree is what is wrong with it. -/
theorem mem_findingsFrom_placed {f : Finding} :
    f ∈ findingsFrom [] (t.placed catalogue) ↔ t.Defective catalogue f := by
  rw [mem_findingsFrom (placed_pairwise catalogue t)]
  constructor
  · obtain ⟨a, id, defect⟩ := f
    rintro ⟨n, hn, rfl, hd | ⟨rfl, hseen | ⟨b, m, hm, hbefore, hsame⟩⟩⟩
    · cases mem_placed.1 hn with
      | group hg =>
        obtain ⟨hempty, rfl⟩ := mem_defects.1 hd
        exact .empty hg (by simpa [isVacuous] using hempty)
      | condition hg hc => exact .flawed hg hc (Condition.mem_defects.1 hd)
    · cases hseen
    · exact .repeated (mem_placed.1 hn).idAt? (hsame ▸ (mem_placed.1 hm).idAt?) hbefore
  · intro h
    cases h with
    | repeated ha hb hbefore =>
      obtain ⟨n, hn, rfl⟩ := exists_places catalogue ha
      obtain ⟨m, hm, hsame⟩ := exists_places catalogue hb
      exact ⟨n, mem_placed.2 hn, rfl, .inr ⟨rfl, .inr ⟨_, m, mem_placed.2 hm, hbefore, hsame⟩⟩⟩
    | empty hg hempty =>
      exact ⟨_, mem_placed.2 (.group hg), rfl, .inl (mem_defects.2 ⟨by simpa [isVacuous] using hempty, rfl⟩)⟩
    | flawed hg hc hflaw =>
      exact ⟨_, mem_placed.2 (.condition hg hc), rfl, .inl (Condition.mem_defects.2 hflaw)⟩

/-- The node that a finding is about stands in the group at the path of its address. -/
theorem Defective.exists_getAt {f : Finding} (h : t.Defective catalogue f) :
    ∃ g, t.getAt (f.address.path.map Int.ofNat) = .ok g ∧
      (g.id = f.nodeId ∨ ∃ c ∈ g.conditions, c.id = f.nodeId) := by
  cases h with
  | @repeated a b id ha hb hbefore =>
    obtain ⟨n, hn, rfl⟩ := exists_places catalogue ha
    cases hn with
    | group hg => exact ⟨_, subAt?_eq_some.1 hg, .inl rfl⟩
    | condition hg hc => exact ⟨_, subAt?_eq_some.1 hg, .inr ⟨_, List.mem_of_getElem? hc, rfl⟩⟩
  | empty hg hempty => exact ⟨_, subAt?_eq_some.1 hg, .inl rfl⟩
  | flawed hg hc hflaw => exact ⟨_, subAt?_eq_some.1 hg, .inr ⟨_, List.mem_of_getElem? hc, rfl⟩⟩

theorem validate_eq_findings (catalogue : Catalogue) (t : Group) :
    t.validate catalogue = (findingsFrom [] (t.placed catalogue)).map Finding.issue := by
  rw [map_issue_findingsFrom fun entry hentry => (mem_placed.1 hentry).path_eq, map_snd_placed, validate]

theorem count_validate (catalogue : Catalogue) (t : Group) :
    (t.validate catalogue).countP Issue.isRepetition + t.ids.toFinset.card = t.ids.length := by
  have hranked : ∀ n ∈ t.nodes catalogue, Ranked n.defects := by
    intro n hn
    rw [← map_snd_placed] at hn
    obtain ⟨entry, hentry, rfl⟩ := List.mem_map.1 hn
    exact (mem_placed.1 hentry).ranked_defects
  have hcount := count_issuesFrom [] hranked
  rwa [map_id_nodes, List.toFinset_nil, Finset.sdiff_empty, ← List.length_map, map_id_nodes] at hcount

/-- Validation reports what is wrong with a tree, all of it, nothing else, each of it once, and in order:
the nodes depth first, each group before its conditions, and for one node first its identifier, then that it
is an empty group, the field, the operator, the value and the upper bound. Errors are those about identifiers
and operators. So there are as many repeated identifiers as nodes less different identifiers, no issue at all
exactly if nothing is wrong, and each issue leads to the group that its node is or stands in. -/
theorem validate_exact (catalogue : Catalogue) (t : Group) :
    (∃ found : List Finding, t.validate catalogue = found.map Finding.issue ∧
        found.Pairwise Finding.Before ∧ ∀ f, f ∈ found ↔ t.Defective catalogue f) ∧
      (∀ issue ∈ t.validate catalogue, issue.severity = .error ↔
        (∃ id, issue.defect = .duplicateId id) ∨ (∃ name, issue.defect = .unknownOperator name) ∨
          ∃ operator type field, issue.defect = .operatorNotAllowed operator type field) ∧
      (t.validate catalogue).countP Issue.isRepetition + t.ids.toFinset.card = t.ids.length ∧
      (t.validate catalogue = [] ↔ ∀ f, ¬ t.Defective catalogue f) ∧
      ∀ issue ∈ t.validate catalogue, ∃ g, t.getAt (issue.path.map Int.ofNat) = .ok g ∧
        (g.id = issue.nodeId ∨ ∃ c ∈ g.conditions, c.id = issue.nodeId) := by
  have hfound : t.validate catalogue = (findingsFrom [] (t.placed catalogue)).map Finding.issue :=
    validate_eq_findings catalogue t
  refine ⟨⟨_, hfound, ?_, fun f => mem_findingsFrom_placed⟩, fun issue _ => Defect.severity_eq_error,
    count_validate catalogue t, ?_, ?_⟩
  · exact findingsFrom_pairwise (placed_pairwise catalogue t) fun entry hentry =>
      (mem_placed.1 hentry).ranked_defects
  · rw [hfound, List.map_eq_nil_iff, List.eq_nil_iff_forall_not_mem]
    exact forall_congr' fun f => not_congr mem_findingsFrom_placed
  · intro issue hissue
    rw [hfound] at hissue
    obtain ⟨f, hf, rfl⟩ := List.mem_map.1 hissue
    exact (mem_findingsFrom_placed.1 hf).exists_getAt

example : (Group.mk "a" .or [⟨"a", "email", .unknown "like", .null, .null⟩] [⟨"a", .and, [], []⟩]).validate
    .contact = [⟨[], "a", .duplicateId "a"⟩, ⟨[], "a", .unknownOperator "like"⟩, ⟨[0], "a", .duplicateId "a"⟩,
      ⟨[0], "a", .emptyGroup .and⟩] := by
  decide

end Group

end Segmentation
