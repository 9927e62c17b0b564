import Segmentation.Proofs.Editing.Survival
import Segmentation.Proofs.Rule.Nodes
import Mathlib.Data.List.Lex

/-!
# The order of the nodes of a tree

* `Address.Before`: depth first, each group before its conditions and these before its sub-groups.
* `Group.subAt?_eq_some`: addresses and paths lead to the same groups.
* `Group.placed`: the nodes of a tree with their addresses; `Group.mem_placed` says which ones are listed
  and `Group.placed_pairwise` in which order.
* `Group.Rounds`: what some rounds of a walk report, and the stack that they leave.
* `Group.Rounds.seen_append_ahead`: what has been reported and what is ahead of the stack make up the traversal of the
  tree at all times.
* `Group.Rounds.length_add_pending`: each round leaves one group less to report, so that the walk ends.
* `Group.walk_traverses`: the walk is the recursive traversal, each group before its sub-groups. It lists what stands at
  each path, in the order of the paths.
-/

namespace Segmentation

/-- The first address comes before the second one: its group does in depth-first order, which compares the
indexes on the two paths one by one, or it is the same group and then the group itself comes before its
conditions and these come by their indexes. -/
def Address.Before (a b : Address) : Prop :=
  a.path < b.path ∨ a.path = b.path ∧ a.condition < b.condition

namespace Address

theorem Before.asymm {a b : Address} (h : a.Before b) : ¬ b.Before a := by
  have hcondition : a.condition < b.condition → ¬ b.condition < a.condition := by
    cases a.condition <;> cases b.condition <;> simp only [Option.not_lt_none, Option.some_lt_some,
      not_false_iff, false_implies, implies_true]
    exact Nat.lt_asymm
  rintro (hpath | ⟨hpath, hback⟩)
  · rcases h with h | ⟨h, -⟩
    · exact lt_asymm h hpath
    · exact lt_irrefl _ (h ▸ hpath)
  · rcases h with h | ⟨-, h⟩
    · exact lt_irrefl _ (hpath ▸ h)
    · exact hcondition h hback

theorem not_before_self (a : Address) : ¬ a.Before a :=
  fun h => h.asymm h

end Address

namespace Group

variable {catalogue : Catalogue} {t g : Group} {path : List Nat}

/-- Indexes of sub-groups lead to a group exactly if they do as a path. -/
theorem subAt?_eq_some : t.subAt? path = some g ↔ t.getAt (path.map Int.ofNat) = .ok g := by
  induction path generalizing t with
  | nil =>
    rw [subAt?, List.map_nil, getAt, Option.some_inj, Except.ok.injEq]
  | cons i path ih =>
    rw [subAt?, Option.bind_eq_some_iff, List.map_cons, getAt_cons]
    constructor
    · rintro ⟨sub, hsub, h⟩
      exact ⟨i, sub, rfl, hsub, ih.1 h⟩
    · rintro ⟨j, sub, hij, hsub, h⟩
      obtain rfl := Int.ofNat_inj.1 hij
      exact ⟨sub, hsub, ih.2 h⟩

/-! ## Groups in order -/

/-- The groups of a tree are listed by their paths, and so are those of neighbouring trees. -/
theorem preorderFrom_pairwise (path : List Nat) (g : Group) :
    (preorderFrom path g).Pairwise fun a b => a.1 < b.1 := by
  induction g generalizing path with
  | node g ih =>
    have hsubs : ∀ (index : Nat) (gs : List Group), (∀ sub ∈ gs, sub ∈ g.groups) →
        (preordersFrom path index gs).Pairwise fun a b => a.1 < b.1 := by
      intro index gs hgs
      induction gs generalizing index with
      | nil => exact .nil
      | cons sub gs ihs =>
        rw [preordersFrom, List.pairwise_append]
        refine ⟨ih sub (hgs sub List.mem_cons_self) _,
          ihs (index + 1) fun s hs => hgs s (List.mem_cons_of_mem _ hs), ?_⟩
        rintro ⟨p, a⟩ ha ⟨q, b⟩ hb
        obtain ⟨i, inner, -, hb⟩ := mem_preordersFrom.1 hb
        obtain ⟨rest, rfl, -⟩ := mem_preorderFrom.1 ha
        obtain ⟨rest', rfl, -⟩ := mem_preorderFrom.1 hb
        rw [List.append_assoc, List.append_assoc]
        exact List.append_left_lt (List.cons_lt_cons_iff.2 (.inl (by omega)))
    rw [preorderFrom_eq, List.pairwise_cons]
    refine ⟨?_, hsubs 0 g.groups fun _ h => h⟩
    rintro ⟨q, b⟩ hb
    obtain ⟨i, inner, -, hb⟩ := mem_preordersFrom.1 hb
    obtain ⟨rest, rfl, -⟩ := mem_preorderFrom.1 hb
    have hlt : path ++ [] < path ++ ([0 + i] ++ rest) := List.append_left_lt (List.nil_lt_cons _ _)
    rwa [List.append_nil, ← List.append_assoc] at hlt

/-! ## Nodes in order -/

/-- The group at a path and its conditions, with their addresses. -/
def placedAt (catalogue : Catalogue) (path : List Nat) (g : Group) : List (Address × Node) :=
  (⟨path, none⟩, ⟨path, g.id, g.defects⟩) ::
    g.conditions.zipIdx.map fun c => (⟨path, some c.2⟩, ⟨path, c.1.id, c.1.defects catalogue⟩)

/-- The nodes of a tree with their addresses. -/
def placed (catalogue : Catalogue) (t : Group) : List (Address × Node) :=
  t.preorder.flatMap fun (path, g) => g.placedAt catalogue path

theorem map_snd_placed (catalogue : Catalogue) (t : Group) :
    (t.placed catalogue).map Prod.snd = t.nodes catalogue := by
  rw [placed, nodes, List.map_flatMap]
  refine List.flatMap_congr fun ⟨path, g⟩ _ => ?_
  dsimp only
  rw [placedAt, nodesAt, List.map_cons, List.map_map]
  conv_rhs => rw [← List.zipIdx_map_fst 0 g.conditions, List.map_map]
  rfl

/-- At an address of the tree stands this node. -/
inductive Places (catalogue : Catalogue) (t : Group) : Address → Node → Prop where
  | group {path : List Nat} {g : Group} (hg : t.subAt? path = some g) :
      Places catalogue t ⟨path, none⟩ ⟨path, g.id, g.defects⟩
  | condition {path : List Nat} {g : Group} {i : Nat} {c : Condition} (hg : t.subAt? path = some g)
      (hc : g.conditions[i]? = some c) :
      Places catalogue t ⟨path, some i⟩ ⟨path, c.id, c.defects catalogue⟩

theorem mem_placed {a : Address} {n : Node} :
    (a, n) ∈ t.placed catalogue ↔ t.Places catalogue a n := by
  rw [placed, ← walk_eq_preorder, List.mem_flatMap]
  constructor
  · rintro ⟨⟨path, g⟩, hg, hn⟩
    have hsub := subAt?_eq_some.2 (mem_walk.1 hg)
    rcases List.mem_cons.1 hn with hn | hn
    · cases hn
      exact .group hsub
    · obtain ⟨⟨c, i⟩, hc, hn⟩ := List.mem_map.1 hn
      cases hn
      exact .condition hsub (List.mem_zipIdx_iff_getElem?.1 hc)
  · intro h
    cases h with
    | group hg => exact ⟨_, mem_walk.2 (subAt?_eq_some.1 hg), List.mem_cons_self⟩
    | @condition path g i c hg hc =>
      have hlisted : (c, i) ∈ g.conditions.zipIdx := List.mem_zipIdx_iff_getElem?.2 hc
      exact ⟨_, mem_walk.2 (subAt?_eq_some.1 hg),
        List.mem_cons_of_mem _ (List.mem_map.2 ⟨(c, i), hlisted, rfl⟩)⟩

theorem Places.idAt? {a : Address} {n : Node} (h : t.Places catalogue a n) : t.idAt? a = some n.id := by
  cases h with
  | group hg => rw [Group.idAt?, hg]; rfl
  | condition hg hc => rw [Group.idAt?, hg, Option.bind_some, ownId?, hc]; rfl

theorem exists_places (catalogue : Catalogue) {a : Address} {id : String} (h : t.idAt? a = some id) :
    ∃ n, t.Places catalogue a n ∧ n.id = id := by
  obtain ⟨path, condition⟩ := a
  obtain ⟨g, hg, h⟩ := Option.bind_eq_some_iff.1 h
  cases condition with
  | none => exact ⟨_, .group hg, Option.some.inj h⟩
  | some i =>
    obtain ⟨c, hc, rfl⟩ := Option.map_eq_some_iff.1 h
    exact ⟨_, .condition hg hc, rfl⟩

theorem Places.path_eq {a : Address} {n : Node} (h : t.Places catalogue a n) : n.path = a.path := by
  cases h with
  | group _ => rfl
  | condition _ _ => rfl

theorem path_of_mem_placedAt {entry : Address × Node} (h : entry ∈ g.placedAt catalogue path) :
    entry.1.path = path := by
  rcases List.mem_cons.1 h with rfl | h
  · rfl
  · obtain ⟨_, -, rfl⟩ := List.mem_map.1 h
    rfl

theorem placedAt_pairwise (catalogue : Catalogue) (path : List Nat) (g : Group) :
    (g.placedAt catalogue path).Pairwise fun a b => a.1.Before b.1 := by
  rw [placedAt, List.pairwise_cons, List.pairwise_map]
  constructor
  · intro entry hentry
    obtain ⟨_, -, rfl⟩ := List.mem_map.1 hentry
    exact .inr ⟨rfl, trivial⟩
  · have hindexes : (g.conditions.zipIdx.map Prod.snd).Pairwise (· < ·) := by
      rw [List.zipIdx_map_snd]
      exact List.pairwise_lt_range'
    exact (List.pairwise_map.1 hindexes).imp fun h => .inr ⟨rfl, Option.some_lt_some.2 h⟩

/-- The nodes of a tree are listed by their addresses. -/
theorem placed_pairwise (catalogue : Catalogue) (t : Group) :
    (t.placed catalogue).Pairwise fun a b => a.1.Before b.1 := by
  rw [placed, List.pairwise_flatMap]
  refine ⟨fun entry _ => placedAt_pairwise catalogue entry.1 entry.2, ?_⟩
  refine (preorderFrom_pairwise [] t).imp fun {a b} hpath x hx y hy => .inl ?_
  rwa [path_of_mem_placedAt hx, path_of_mem_placedAt hy]

end Group

namespace Group

variable {path : List Nat} {t g : Group} {start seen stack : List (List Nat × Group)}

/-! ## One round of a walk

A walk keeps a stack of the groups that it knows of and has not reported yet. In each round it takes the group on top,
reports it, and pushes its sub-groups. -/

/-- The stack after the sub-groups of a group have been pushed one by one, the last one first. -/
def pushed (path : List Nat) (g : Group) (stack : List (List Nat × Group)) : List (List Nat × Group) :=
  g.groups.zipIdx.foldr (fun (sub, index) stack => (path ++ [index], sub) :: stack) stack

theorem numbered_eq (path : List Nat) (index : Nat) (gs : List Group) :
    numbered path index gs = (gs.zipIdx index).map fun (sub, i) => (path ++ [i], sub) := by
  induction gs generalizing index with
  | nil => rfl
  | cons g gs ih => rw [numbered, ih, List.zipIdx_cons, List.map_cons]

theorem pushed_eq (path : List Nat) (g : Group) (stack : List (List Nat × Group)) :
    pushed path g stack = g.children path ++ stack := by
  rw [children, numbered_eq]
  exact List.foldr_cons_eq_append

/-- What the groups on a stack and those below them are, in recursive order: each group, then its sub-groups. -/
def ahead (stack : List (List Nat × Group)) : List (List Nat × Group) :=
  stack.flatMap fun (path, g) => preorderFrom path g

theorem preordersFrom_eq (path : List Nat) (index : Nat) (gs : List Group) :
    preordersFrom path index gs = ahead (numbered path index gs) := by
  induction gs generalizing index with
  | nil => rfl
  | cons g gs ih =>
    rw [preordersFrom, ih]
    rfl

/-- Of what is ahead a round reports the first group, and it leaves the others in their order. -/
theorem ahead_round (path : List Nat) (g : Group) (stack : List (List Nat × Group)) :
    ahead ((path, g) :: stack) = (path, g) :: ahead (pushed path g stack) := by
  have hsplit : ahead (g.children path ++ stack) = preordersFrom path 0 g.groups ++ ahead stack := by
    rw [preordersFrom_eq]
    exact List.flatMap_append
  rw [pushed_eq, hsplit, ← List.cons_append, ← preorderFrom_eq]
  rfl

theorem pending_round (path : List Nat) (g : Group) (stack : List (List Nat × Group)) :
    pending ((path, g) :: stack) = 1 + pending (pushed path g stack) := by
  rw [pushed_eq, pending_append, pending_children, pending, size_eq, Nat.add_assoc]

/-! ## Any number of rounds -/

/-- From the stack `start` some rounds have reported `seen` and left `stack`. -/
inductive Rounds (start : List (List Nat × Group)) :
    List (List Nat × Group) → List (List Nat × Group) → Prop where
  | none : Rounds start [] start
  | next {seen stack : List (List Nat × Group)} {path : List Nat} {g : Group}
      (h : Rounds start seen ((path, g) :: stack)) :
      Rounds start (seen ++ [(path, g)]) (pushed path g stack)

theorem Rounds.seen_append_ahead (h : Rounds start seen stack) : seen ++ ahead stack = ahead start := by
  induction h with
  | none => rfl
  | next _ ih => rwa [List.append_assoc, List.singleton_append, ← ahead_round]

theorem Rounds.length_add_pending (h : Rounds start seen stack) :
    seen.length + pending stack = pending start := by
  induction h with
  | none => exact Nat.zero_add _
  | next _ ih => rwa [List.length_append, List.length_singleton, Nat.add_assoc, ← pending_round]

/-- The walk makes rounds until its stack is empty. -/
theorem Rounds.walkFrom (h : Rounds start seen stack) : Rounds start (seen ++ walkFrom stack) [] := by
  fun_induction Group.walkFrom stack generalizing seen with
  | case1 => rwa [List.append_nil]
  | case2 path g stack ih =>
    have hnext := h.next
    rw [pushed_eq] at hnext
    have hall := ih hnext
    rwa [List.append_assoc, List.singleton_append] at hall

/-! ## The paths of a walk -/

/-- The indexes on a path that leads to a group are natural numbers. -/
theorem exists_indexes {path : List Int} (h : t.getAt path = .ok g) :
    ∃ indexes : List Nat, path = indexes.map Int.ofNat := by
  induction path generalizing t with
  | nil => exact ⟨[], rfl⟩
  | cons index path ih =>
    obtain ⟨i, sub, rfl, -, h⟩ := getAt_cons.1 h
    obtain ⟨indexes, rfl⟩ := ih h
    exact ⟨i :: indexes, rfl⟩

theorem walk_paths_pairwise (t : Group) : (t.walk.map Prod.fst).Pairwise (· < ·) := by
  rw [walk_eq_preorder, List.pairwise_map]
  exact preorderFrom_pairwise [] t

/-- The walk makes as many rounds as the tree has groups, whatever is on the stack in between, and then it has reported
the recursive traversal of the tree: each group before its sub-groups, and these in their order. So far it has always
reported a first part of the traversal. The paths are listed in lexicographic order and without repetition, each with
the group that it leads to, and every path that leads to a group is among them. -/
theorem walk_traverses (t : Group) :
    Rounds [([], t)] t.walk [] ∧
      (∀ seen stack, Rounds [([], t)] seen stack →
        seen ++ ahead stack = t.preorder ∧ seen.length + pending stack = t.size) ∧
      t.walk = t.preorder ∧ t.walk.length = t.size ∧
      (t.walk.map Prod.fst).Pairwise (· < ·) ∧ (t.walk.map Prod.fst).Nodup ∧
      (∀ path g, (path, g) ∈ t.walk → t.getAt (path.map Int.ofNat) = .ok g) ∧
      ∀ path g, t.getAt path = .ok g → ∃ indexes, path = indexes.map Int.ofNat ∧ (indexes, g) ∈ t.walk := by
  have hahead : ahead [([], t)] = t.preorder := List.append_nil _
  have hpending : pending [([], t)] = t.size := rfl
  have hrounds : ∀ seen stack, Rounds [([], t)] seen stack →
      seen ++ ahead stack = t.preorder ∧ seen.length + pending stack = t.size := by
    intro seen stack h
    rw [← hahead, ← hpending]
    exact ⟨h.seen_append_ahead, h.length_add_pending⟩
  have hwalk : Rounds [([], t)] t.walk [] := Rounds.none.walkFrom
  refine ⟨hwalk, hrounds, walk_eq_preorder t, (hrounds _ _ hwalk).2, walk_paths_pairwise t,
    (walk_paths_pairwise t).imp ne_of_lt, fun path g => mem_walk.1, fun path g h => ?_⟩
  obtain ⟨indexes, rfl⟩ := exists_indexes h
  exact ⟨indexes, rfl, mem_walk.2 h⟩

end Group

end Segmentation
