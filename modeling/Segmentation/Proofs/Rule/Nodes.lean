import Segmentation.Proofs.Editing.Path
import Segmentation.Rule.Walk
import Segmentation.Validation

/-!
# The nodes of a tree

* `Group.ids`: the identifiers of a tree, in the order in which validation meets them.
* `Condition.Flaw`: what can be wrong with a condition, and when it is; these are the defects that are found.
* `Condition.Admissible`: the operator of the condition is one that the catalogue lists for its field.
* `Group.validate_severity`: a tree of admissible conditions with different identifiers has no error.
* `Group.walk_eq_preorder`: the walk with a stack visits the groups of a tree depth first.
* `Group.mem_walk`: it visits every group, under the path that leads to it.
-/

namespace Segmentation

namespace Group

/-! ## Identifiers -/

mutual

/-- The identifiers of the nodes of a tree: of each group, its conditions, and its sub-groups. -/
def ids : Group → List String
  | ⟨id, _, conditions, groups⟩ => id :: (conditions.map (·.id) ++ idsOf groups)

/-- The identifiers of the nodes of several trees. -/
def idsOf : List Group → List String
  | [] => []
  | g :: gs => ids g ++ idsOf gs

end

theorem idsOf_eq (gs : List Group) : idsOf gs = gs.flatMap ids := by
  induction gs with
  | nil => rfl
  | cons g gs ih => rw [idsOf, ih, List.flatMap_cons]

theorem ids_eq (g : Group) : g.ids = g.id :: (g.conditions.map (·.id) ++ g.groups.flatMap ids) := by
  cases g with
  | mk id connective conditions groups => rw [ids, idsOf_eq]

/-! ## Nodes in order -/

theorem preorderFrom_eq (path : List Nat) (g : Group) :
    preorderFrom path g = (path, g) :: preordersFrom path 0 g.groups := by
  cases g with
  | mk id connective conditions groups => rw [preorderFrom]

/-- The groups of neighbouring trees are those of each of them, under its index. -/
theorem mem_preordersFrom {path : List Nat} {index : Nat} {gs : List Group} {entry : List Nat × Group} :
    entry ∈ preordersFrom path index gs ↔
      ∃ (i : Nat) (sub : Group), gs[i]? = some sub ∧ entry ∈ preorderFrom (path ++ [index + i]) sub := by
  induction gs generalizing index with
  | nil => simp [preordersFrom]
  | cons g gs ih =>
    rw [preordersFrom, List.mem_append, ih]
    constructor
    · rintro (h | ⟨i, sub, hsub, h⟩)
      · exact ⟨0, g, rfl, h⟩
      · exact ⟨i + 1, sub, hsub, by rwa [Nat.add_right_comm, Nat.add_assoc] at h⟩
    · rintro ⟨i, sub, hsub, h⟩
      cases i with
      | zero =>
        cases hsub
        exact .inl h
      | succ i => exact .inr ⟨i, sub, hsub, by rwa [Nat.add_right_comm, Nat.add_assoc]⟩

/-- What holds of all conditions of a tree holds of all conditions of each of its groups. -/
theorem EachCondition.of_mem_preorderFrom {p : Condition → Prop} {g : Group} (hg : g.EachCondition p)
    {path : List Nat} {entry : List Nat × Group} (h : entry ∈ preorderFrom path g) :
    ∀ c ∈ entry.2.conditions, p c := by
  induction g generalizing path with
  | node g ih =>
    rw [eachCondition_iff] at hg
    rw [preorderFrom_eq] at h
    rcases List.mem_cons.1 h with rfl | h
    · exact hg.1
    · obtain ⟨i, sub, hsub, h⟩ := mem_preordersFrom.1 h
      have hmem : sub ∈ g.groups := List.mem_of_getElem? hsub
      exact ih sub hmem (hg.2 sub hmem) h

variable (catalogue : Catalogue)

theorem map_id_nodesAt (path : List Nat) (g : Group) :
    (g.nodesAt catalogue path).map (·.id) = g.id :: g.conditions.map (·.id) := by
  rw [nodesAt, List.map_cons, List.map_map]
  rfl

theorem map_id_preorderFrom (path : List Nat) (g : Group) :
    ((preorderFrom path g).flatMap fun (path, sub) => sub.nodesAt catalogue path).map (·.id) = g.ids := by
  induction g generalizing path with
  | node g ih =>
    have hsubs : ∀ index gs, (∀ sub ∈ gs, sub ∈ g.groups) →
        ((preordersFrom path index gs).flatMap fun (path, sub) => sub.nodesAt catalogue path).map (·.id) =
          gs.flatMap ids := by
      intro index gs hgs
      induction gs generalizing index with
      | nil => rfl
      | cons sub gs ihs =>
        have htail := ihs (index + 1) fun s hs => hgs s (List.mem_cons_of_mem _ hs)
        rw [preordersFrom, List.flatMap_append, List.map_append, ih sub (hgs sub List.mem_cons_self),
          htail, List.flatMap_cons]
    rw [preorderFrom_eq, List.flatMap_cons, List.map_append, hsubs 0 g.groups fun _ h => h,
      map_id_nodesAt, ids_eq, List.cons_append]

theorem map_id_nodes (g : Group) : (g.nodes catalogue).map (·.id) = g.ids :=
  map_id_preorderFrom catalogue [] g

end Group

/-! ## Issues -/

theorem issuesFrom_severity {seen : List String} {ns : List Node} (hnodup : (ns.map (·.id)).Nodup)
    (hseen : ∀ n ∈ ns, n.id ∉ seen) (hdefects : ∀ n ∈ ns, ∀ d ∈ n.defects, d.severity ≠ .error) :
    ∀ issue ∈ issuesFrom seen ns, issue.severity ≠ .error := by
  induction ns generalizing seen with
  | nil => intro issue hissue; cases hissue
  | cons n ns ih =>
    intro issue hissue
    rw [issuesFrom] at hissue
    rw [List.map_cons, List.nodup_cons] at hnodup
    rcases List.mem_append.1 hissue with hissue | hissue
    · unfold Node.issues at hissue
      rw [if_neg (hseen n List.mem_cons_self)] at hissue
      dsimp only [List.nil_append] at hissue
      obtain ⟨d, hd, rfl⟩ := List.mem_map.1 hissue
      exact hdefects n List.mem_cons_self d hd
    · refine ih hnodup.2 (fun m hm hmem => ?_) (fun m hm => hdefects m (List.mem_cons_of_mem _ hm)) issue
        hissue
      rcases List.mem_cons.1 hmem with heq | hmem
      · exact hnodup.1 (heq ▸ List.mem_map_of_mem hm)
      · exact hseen m (List.mem_cons_of_mem _ hm) hmem

namespace Condition

/-- What can be wrong with a condition, and when it is. The operands count only if the operator is in
order. -/
inductive Flaw (catalogue : Catalogue) (c : Condition) : Defect → Prop where
  | unknownField (hfield : catalogue.field? c.field = none) : Flaw catalogue c (.unknownField c.field)
  | unknownOperator {name : String} (hoperator : c.operator = .unknown name) :
      Flaw catalogue c (.unknownOperator name)
  | notAllowed {operator : Operator} (hoperator : c.operator = .known operator)
      (hcanonical : catalogue.canonicalOperator? c.field operator = none) :
      Flaw catalogue c (.operatorNotAllowed operator (catalogue.fieldType c.field) c.field)
  | noValue {operator : Operator} (hoperator : c.operator = .known operator)
      (hcanonical : (catalogue.canonicalOperator? c.field operator).isSome = true)
      (hvalue : operator.takesValue = true ∧ c.value.isMissing = true) :
      Flaw catalogue c (.noValue c.field operator)
  | noUpperBound {operator : Operator} (hoperator : c.operator = .known operator)
      (hcanonical : (catalogue.canonicalOperator? c.field operator).isSome = true)
      (hvalue2 : operator.takesSecondValue = true ∧ c.value2.isBlank = true) :
      Flaw catalogue c (.noUpperBound c.field)

variable {catalogue : Catalogue} {c : Condition} {defect : Defect}

theorem mem_operandDefects {operator : Operator} :
    defect ∈ c.operandDefects operator ↔
      ((operator.takesValue = true ∧ c.value.isMissing = true) ∧ defect = .noValue c.field operator) ∨
        (operator.takesSecondValue = true ∧ c.value2.isBlank = true) ∧ defect = .noUpperBound c.field := by
  simp only [operandDefects, List.mem_append, List.mem_ite_nil_right, List.mem_singleton, Bool.and_eq_true]

/-- The defects that are found in a condition are its flaws. -/
theorem mem_defects : defect ∈ c.defects catalogue ↔ c.Flaw catalogue defect := by
  unfold defects operatorDefects
  rw [List.mem_append, List.mem_ite_nil_right, List.mem_singleton, Option.isNone_iff_eq_none]
  constructor
  · rintro (⟨hfield, rfl⟩ | h)
    · exact .unknownField hfield
    · split at h
      · rename_i name hoperator
        rw [List.mem_singleton.1 h]
        exact .unknownOperator hoperator
      · rename_i operator hoperator
        split at h
        · rename_i hcanonical
          rw [List.mem_singleton.1 h]
          exact .notAllowed hoperator hcanonical
        · rename_i canonical hcanonical
          have hallowed : (catalogue.canonicalOperator? c.field operator).isSome = true := by
            rw [hcanonical]
            rfl
          rcases mem_operandDefects.1 h with ⟨hvalue, rfl⟩ | ⟨hvalue2, rfl⟩
          · exact .noValue hoperator hallowed hvalue
          · exact .noUpperBound hoperator hallowed hvalue2
  · intro h
    cases h with
    | unknownField hfield => exact .inl ⟨hfield, rfl⟩
    | unknownOperator hoperator =>
      rw [hoperator]
      exact .inr List.mem_cons_self
    | notAllowed hoperator hcanonical =>
      rw [hoperator]
      dsimp only
      rw [hcanonical]
      exact .inr List.mem_cons_self
    | noValue hoperator hallowed hvalue =>
      obtain ⟨canonical, hcanonical⟩ := Option.isSome_iff_exists.1 hallowed
      rw [hoperator]
      dsimp only
      rw [hcanonical]
      exact .inr (mem_operandDefects.2 (.inl ⟨hvalue, rfl⟩))
    | noUpperBound hoperator hallowed hvalue2 =>
      obtain ⟨canonical, hcanonical⟩ := Option.isSome_iff_exists.1 hallowed
      rw [hoperator]
      dsimp only
      rw [hcanonical]
      exact .inr (mem_operandDefects.2 (.inr ⟨hvalue2, rfl⟩))

/-- The operator of the condition is known, and the catalogue lists it for the type of the field. -/
def Admissible (catalogue : Catalogue) (c : Condition) : Prop :=
  ∃ operator, c.operator = .known operator ∧ (catalogue.canonicalOperator? c.field operator).isSome = true

/-- All that can be wrong with an admissible condition is no error. -/
theorem Admissible.defects_severity (hc : c.Admissible catalogue) :
    ∀ d ∈ c.defects catalogue, d.severity ≠ .error := by
  obtain ⟨operator, hoperator, hallowed⟩ := hc
  intro d hd
  cases mem_defects.1 hd with
  | unknownField _ => exact fun h => by cases h
  | unknownOperator hunknown => cases hoperator.symm.trans hunknown
  | notAllowed hknown hnone =>
    cases hoperator.symm.trans hknown
    rw [hnone] at hallowed
    cases hallowed
  | noValue _ _ _ => exact fun h => by cases h
  | noUpperBound _ _ _ => exact fun h => by cases h

end Condition

/-- A tree of admissible conditions whose nodes have different identifiers is free of errors. -/
theorem Group.validate_severity {catalogue : Catalogue} {g : Group} (hids : g.ids.Nodup)
    (hg : g.EachCondition (Condition.Admissible catalogue)) :
    ∀ issue ∈ g.validate catalogue, issue.severity ≠ .error := by
  refine issuesFrom_severity ?_ (fun n _ h => by cases h) ?_
  · rw [map_id_nodes]
    exact hids
  · intro n hn
    obtain ⟨entry, hentry, hn⟩ := List.mem_flatMap.1 hn
    rcases List.mem_cons.1 hn with rfl | hn
    · intro d hd
      unfold Group.defects at hd
      obtain ⟨-, hd⟩ := List.mem_ite_nil_right.1 hd
      rw [List.mem_singleton.1 hd]
      exact fun h => by cases h
    · obtain ⟨c, hc, rfl⟩ := List.mem_map.1 hn
      exact (hg.of_mem_preorderFrom hentry c hc).defects_severity

end Segmentation

/-! ## The groups that a walk visits -/

namespace Segmentation.Group

/-- The walk finishes the tree on top of the stack before it goes on. -/
theorem walkFrom_cons (path : List Nat) (g : Group) (stack : List (List Nat × Group)) :
    walkFrom ((path, g) :: stack) = preorderFrom path g ++ walkFrom stack := by
  induction g generalizing path stack with
  | node g ih =>
    have hsubs : ∀ (index : Nat) (gs : List Group), (∀ sub ∈ gs, sub ∈ g.groups) →
        walkFrom (numbered path index gs ++ stack) = preordersFrom path index gs ++ walkFrom stack := by
      intro index gs hgs
      induction gs generalizing index with
      | nil => rfl
      | cons sub gs ihs =>
        have htail := ihs (index + 1) fun s hs => hgs s (List.mem_cons_of_mem _ hs)
        rw [numbered, List.cons_append, ih sub (hgs sub List.mem_cons_self), htail, preordersFrom,
          List.append_assoc]
    rw [walkFrom, children, hsubs 0 g.groups fun _ h => h, preorderFrom_eq, List.cons_append]

theorem walk_eq_preorder (g : Group) : g.walk = g.preorder := by
  rw [walk, walkFrom_cons, walkFrom, List.append_nil, preorder]

/-- Under a path a tree has the groups that are reached by following the rest of a longer path. -/
theorem mem_preorderFrom {path path' : List Nat} {g sub : Group} :
    (path', sub) ∈ preorderFrom path g ↔
      ∃ rest : List Nat, path' = path ++ rest ∧ g.getAt (rest.map Int.ofNat) = .ok sub := by
  induction g generalizing path with
  | node g ih =>
    rw [preorderFrom_eq, List.mem_cons, mem_preordersFrom]
    constructor
    · rintro (h | ⟨i, inner, hinner, h⟩)
      · cases h
        exact ⟨[], by rw [List.append_nil], rfl⟩
      · obtain ⟨rest, hpath, hrest⟩ := (ih inner (List.mem_of_getElem? hinner)).1 h
        rw [Nat.zero_add, List.append_assoc] at hpath
        exact ⟨i :: rest, hpath, getAt_cons.2 ⟨i, inner, rfl, hinner, hrest⟩⟩
    · rintro ⟨rest, rfl, h⟩
      cases rest with
      | nil =>
        cases h
        rw [List.append_nil]
        exact .inl rfl
      | cons i rest =>
        obtain ⟨j, inner, hij, hinner, h⟩ := getAt_cons.1 h
        obtain rfl := Int.ofNat_inj.1 hij
        refine .inr ⟨i, inner, hinner, (ih inner (List.mem_of_getElem? hinner)).2 ⟨rest, ?_, h⟩⟩
        rw [Nat.zero_add, List.append_assoc, List.singleton_append]

/-- The walk visits a group under a path exactly if the path leads to the group. -/
theorem mem_walk {path : List Nat} {t g : Group} :
    (path, g) ∈ t.walk ↔ t.getAt (path.map Int.ofNat) = .ok g := by
  rw [walk_eq_preorder, preorder, mem_preorderFrom]
  simp only [List.nil_append, exists_eq_left']

end Segmentation.Group
