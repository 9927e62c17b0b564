import Mathlib.Data.List.Nodup
import Segmentation.Proofs.Schema.Places
import Segmentation.Proofs.Text
import Segmentation.Value.Lookup

/-!
# Nested and flat records

A field of a nested record is found by the names that lead to it, joined by dots. The same record may be given as one
mapping whose keys are such paths.

* `Value.leaves`, `Value.flat`: the leaves of nested mappings with their paths, and the mapping of one level.
* `Value.IsNested.follow_leaf`, `Value.IsNested.follow_apart`: the path of a leaf leads to the leaf, and a path that
  is on the way to no leaf leads to nothing.
* `Value.IsNested.prefix_free`: no leaf lies on the way to another one.
* `Value.IsNestedRecord.resolve_leaf`, `Value.IsNestedRecord.resolve_apart`: both records have the same fields.
-/

namespace Segmentation.Value

/-! ## Leaves -/

/-- Anything but a mapping. -/
def IsLeaf : Value → Prop
  | mapping _ => False
  | _ => True

mutual

/-- The leaves of nested mappings, each with the names that lead to it. -/
def leaves : Value → List (List String × Value)
  | mapping entries => entryLeaves entries
  | v => [([], v)]

/-- The leaves below the entries of a mapping. -/
def entryLeaves : List (Value × Value) → List (List String × Value)
  | [] => []
  | (text name, v) :: es => (v.leaves.map fun (path, leaf) => (name :: path, leaf)) ++ entryLeaves es
  | _ :: es => entryLeaves es

end

/-- The mapping of one level from the joined path of each leaf to the leaf. -/
def flat (v : Value) : Value :=
  ofFields (v.leaves.map fun (path, leaf) => (Text.join "." path, leaf))

/-- Pairwise different names without dots. -/
def PlainNames (fields : List (String × Value)) : Prop :=
  (fields.map Prod.fst).Nodup ∧ ∀ field ∈ fields, '.' ∉ field.1.toList

/-- A leaf, or a mapping from plain names to such values that is not empty. -/
inductive IsNested : Value → Prop
  | leaf {v : Value} (hv : v.IsLeaf) : IsNested v
  | mapping {fields : List (String × Value)} (hne : fields ≠ []) (hnames : PlainNames fields)
      (hfields : ∀ field ∈ fields, IsNested field.2) : IsNested (ofFields fields)

/-- A mapping from plain names to nested values, which may be empty. -/
def IsNestedRecord (r : Value) : Prop :=
  ∃ fields, r = ofFields fields ∧ PlainNames fields ∧ ∀ field ∈ fields, IsNested field.2

variable {v leaf leaf' : Value} {fields : List (String × Value)} {name key : String} {path path' : List String}

theorem leaves_of_isLeaf (hv : v.IsLeaf) : v.leaves = [([], v)] := by
  cases v with
  | mapping entries => exact hv.elim
  | _ => rfl

theorem mem_leaves_ofFields {found : List String × Value} :
    found ∈ (ofFields fields).leaves ↔
      ∃ field ∈ fields, ∃ below ∈ field.2.leaves, found = (field.1 :: below.1, below.2) := by
  have hleaves : (ofFields fields).leaves =
      fields.flatMap fun field => field.2.leaves.map fun below => (field.1 :: below.1, below.2) := by
    rw [ofFields, leaves]
    induction fields with
    | nil => rfl
    | cons field fields ih => rw [List.map_cons, entryLeaves, ih, List.flatMap_cons]
  rw [hleaves]
  simp only [List.mem_flatMap, List.mem_map, eq_comm]

/-! ## Following names -/

theorem null_follow (names : List String) : null.follow names = null := by
  cases names <;> rfl

/-- Names are followed one after the other. -/
theorem follow_cons (v : Value) (name : String) (names : List String) :
    v.follow (name :: names) = (v.lookup name).follow names := by
  rw [follow]
  cases v.lookup name with
  | null => exact (null_follow names).symm
  | _ => rfl

/-- What is found under a name is the value of a field of that name, if there is one. -/
theorem lookup_ofFields_cases (fields : List (String × Value)) (name : String) :
    (name, (ofFields fields).lookup name) ∈ fields ∨
      (∀ v, (name, v) ∉ fields) ∧ (ofFields fields).lookup name = null := by
  rw [ofFields, lookup, valueUnder?, List.findRev?_eq_find?_reverse]
  cases hfound : List.find? _ _ with
  | none =>
    refine .inr ⟨fun v hv => ?_, rfl⟩
    have hno := List.find?_eq_none.1 hfound (text name, v)
      (List.mem_reverse.2 (List.mem_map.2 ⟨(name, v), hv, rfl⟩))
    exact hno (decide_eq_true rfl)
  | some entry =>
    obtain ⟨⟨k, v⟩, hfield, rfl⟩ := List.mem_map.1 (List.mem_reverse.1 (List.mem_of_find?_eq_some hfound))
    have hname := List.find?_some hfound
    obtain rfl : k = name := of_decide_eq_true hname
    exact .inl hfield

theorem lookup_ofFields (hmem : (name, v) ∈ fields) (honly : ∀ w, (name, w) ∈ fields → w = v) :
    (ofFields fields).lookup name = v := by
  rcases lookup_ofFields_cases fields name with hfound | ⟨hno, -⟩
  · exact honly _ hfound
  · exact absurd hmem (hno v)

theorem lookup_ofFields_of_notMem (hno : ∀ v, (name, v) ∉ fields) : (ofFields fields).lookup name = null := by
  rcases lookup_ofFields_cases fields name with hfound | ⟨-, hnull⟩
  · exact absurd hfound (hno _)
  · exact hnull

theorem PlainNames.lookup (hnames : PlainNames fields) (hmem : (name, v) ∈ fields) :
    (ofFields fields).lookup name = v :=
  lookup_ofFields hmem fun _ hw =>
    congrArg Prod.snd (List.inj_on_of_nodup_map hnames.1 hw hmem rfl)

/-- A key with a dot is no plain name, so that the parts of a key lead to its field. -/
theorem PlainNames.resolve (hnames : PlainNames fields) (key : String) :
    (ofFields fields).resolve key = (ofFields fields).follow (Text.split key '.') := by
  rw [Value.resolve]
  by_cases hdot : '.' ∈ key.toList
  · have hnull : (ofFields fields).lookup key = null :=
      lookup_ofFields_of_notMem fun v hv => hnames.2 (key, v) hv hdot
    rw [hnull]
    simp [isNull, hdot]
  · rw [Text.split_of_notMem hdot, follow_cons]
    simp [hdot, follow]

/-! ## Paths of leaves -/

namespace IsNested

/-- A nested value has a leaf. -/
theorem exists_leaf (hv : v.IsNested) : ∃ found, found ∈ v.leaves := by
  induction hv with
  | leaf hv => exact ⟨_, by rw [leaves_of_isLeaf hv]; exact List.mem_cons_self⟩
  | @mapping fields hne _ _ ih =>
    obtain ⟨field, rest, rfl⟩ := List.exists_cons_of_ne_nil hne
    obtain ⟨below, hbelow⟩ := ih field List.mem_cons_self
    exact ⟨_, mem_leaves_ofFields.2 ⟨field, List.mem_cons_self, below, hbelow, rfl⟩⟩

/-- The path of a leaf leads to the leaf. -/
theorem follow_leaf (hv : v.IsNested) (hleaf : (path, leaf) ∈ v.leaves) : v.follow path = leaf := by
  induction hv generalizing path with
  | leaf hv =>
    rw [leaves_of_isLeaf hv, List.mem_singleton] at hleaf
    cases hleaf
    rfl
  | mapping _ hnames _ ih =>
    obtain ⟨⟨name, inner⟩, hfield, ⟨rest, found⟩, hbelow, heq⟩ := mem_leaves_ofFields.1 hleaf
    cases heq
    rw [follow_cons, hnames.lookup hfield]
    exact ih _ hfield hbelow

/-- No leaf lies on the way to another one. -/
theorem prefix_free (hv : v.IsNested) (hleaf : (path, leaf) ∈ v.leaves) (hleaf' : (path', leaf') ∈ v.leaves)
    (hway : path <+: path') : path = path' := by
  induction hv generalizing path path' with
  | leaf hv =>
    rw [leaves_of_isLeaf hv, List.mem_singleton] at hleaf hleaf'
    cases hleaf
    cases hleaf'
    rfl
  | mapping _ hnames _ ih =>
    obtain ⟨⟨name, inner⟩, hfield, ⟨rest, found⟩, hbelow, heq⟩ := mem_leaves_ofFields.1 hleaf
    obtain ⟨⟨name', inner'⟩, hfield', ⟨rest', found'⟩, hbelow', heq'⟩ := mem_leaves_ofFields.1 hleaf'
    cases heq
    cases heq'
    rw [List.cons_prefix_cons] at hway
    obtain ⟨rfl, hrest⟩ := hway
    obtain rfl : inner' = inner := congrArg Prod.snd (List.inj_on_of_nodup_map hnames.1 hfield' hfield rfl)
    rw [ih _ hfield hbelow hbelow' hrest]

end IsNested

/-- The path neither leads to or beyond a leaf nor stops on the way to one. -/
def Apart (v : Value) (path : List String) : Prop :=
  ∀ found ∈ v.leaves, ¬ found.1 <+: path ∧ ¬ path <+: found.1

/-- A path into a mapping is followed inside one of its fields, or leads nowhere. -/
theorem follow_ofFields_apart
    (ih : ∀ field ∈ fields, ∀ path, field.2.Apart path → field.2.follow path = null)
    (hapart : (ofFields fields).Apart (name :: path)) : (ofFields fields).follow (name :: path) = null := by
  rw [follow_cons]
  rcases lookup_ofFields_cases fields name with hfield | ⟨-, hnull⟩
  · refine ih _ hfield path fun below hbelow => ?_
    have hfound := hapart (name :: below.1, below.2) (mem_leaves_ofFields.2 ⟨_, hfield, below, hbelow, rfl⟩)
    simpa [List.cons_prefix_cons] using hfound
  · rw [hnull, null_follow]

/-- A path that is on the way to no leaf leads to nothing. -/
theorem IsNested.follow_apart (hv : v.IsNested) (hapart : v.Apart path) : v.follow path = null := by
  induction hv generalizing path with
  | leaf hv =>
    have hfound := hapart ([], _) (by rw [leaves_of_isLeaf hv]; exact List.mem_cons_self)
    exact absurd List.nil_prefix hfound.1
  | mapping hne hnames hfields ih =>
    cases path with
    | nil =>
      -- There is a leaf below every mapping, so that a path that ends here is on the way to one.
      obtain ⟨found, hfound⟩ := (IsNested.mapping hne hnames hfields).exists_leaf
      exact absurd List.nil_prefix (hapart found hfound).2
    | cons name path => exact follow_ofFields_apart (fun field hfield path => ih field hfield) hapart

/-! ## Records -/

/-- The names on the way to a leaf are plain. -/
theorem IsNested.plain (hv : v.IsNested) (hleaf : (path, leaf) ∈ v.leaves) : ∀ name ∈ path, '.' ∉ name.toList := by
  induction hv generalizing path with
  | leaf hv =>
    rw [leaves_of_isLeaf hv, List.mem_singleton] at hleaf
    cases hleaf
    exact fun name hname => by cases hname
  | mapping _ hnames _ ih =>
    obtain ⟨field, hfield, ⟨rest, found⟩, hbelow, heq⟩ := mem_leaves_ofFields.1 hleaf
    cases heq
    exact List.forall_mem_cons.2 ⟨hnames.2 field hfield, ih field hfield hbelow⟩

namespace IsNestedRecord

variable {r : Value}

/-- A record with a leaf is a nested value. -/
theorem isNested (hr : r.IsNestedRecord) {found : List String × Value} (hfound : found ∈ r.leaves) : r.IsNested := by
  obtain ⟨fields, rfl, hnames, hfields⟩ := hr
  refine .mapping (fun hnil => ?_) hnames hfields
  rw [hnil] at hfound
  cases hfound

/-- The parts of the key of a leaf are the names that lead to it. -/
theorem split_leaf (hr : r.IsNestedRecord) (hleaf : (path, leaf) ∈ r.leaves) :
    Text.split (Text.join "." path) '.' = path := by
  have hplain := (hr.isNested hleaf).plain hleaf
  have hne : path ≠ [] := by
    obtain ⟨fields, rfl, -⟩ := hr
    obtain ⟨field, -, below, -, heq⟩ := mem_leaves_ofFields.1 hleaf
    cases heq
    exact List.cons_ne_nil _ _
  exact Text.split_join rfl hne hplain

/-! ### The nested record -/

theorem resolve_leaf (hr : r.IsNestedRecord) (hleaf : (path, leaf) ∈ r.leaves) :
    r.resolve (Text.join "." path) = leaf := by
  have hfollow := (hr.isNested hleaf).follow_leaf hleaf
  have hsplit := hr.split_leaf hleaf
  obtain ⟨fields, rfl, hnames, -⟩ := hr
  rw [hnames.resolve, hsplit, hfollow]

theorem resolve_apart (hr : r.IsNestedRecord) (hapart : r.Apart (Text.split key '.')) : r.resolve key = null := by
  obtain ⟨fields, rfl, hnames, hfields⟩ := hr
  rw [hnames.resolve]
  obtain ⟨name, rest, hsplit⟩ := List.exists_cons_of_ne_nil (Text.split_ne_nil key '.')
  rw [hsplit] at hapart ⊢
  exact follow_ofFields_apart (fun field hfield path => (hfields field hfield).follow_apart) hapart

/-! ### The flat record -/

theorem mem_flat {v : Value} :
    (key, v) ∈ r.leaves.map (fun (path, leaf) => (Text.join "." path, leaf)) ↔
      ∃ path, (path, v) ∈ r.leaves ∧ Text.join "." path = key := by
  simp [List.mem_map]

theorem lookup_flat_leaf (hr : r.IsNestedRecord) (hleaf : (path, leaf) ∈ r.leaves) :
    r.flat.lookup (Text.join "." path) = leaf := by
  refine lookup_ofFields (mem_flat.2 ⟨path, hleaf, rfl⟩) fun w hw => ?_
  obtain ⟨path', hleaf', hjoin⟩ := mem_flat.1 hw
  have hsame : path' = path := by rw [← hr.split_leaf hleaf', hjoin, hr.split_leaf hleaf]
  rw [hsame] at hleaf'
  rw [← (hr.isNested hleaf).follow_leaf hleaf', (hr.isNested hleaf).follow_leaf hleaf]

theorem lookup_flat_of_notMem (hr : r.IsNestedRecord) (hno : ∀ leaf, (Text.split key '.', leaf) ∉ r.leaves) :
    r.flat.lookup key = null := by
  refine lookup_ofFields_of_notMem fun v hv => ?_
  obtain ⟨path, hleaf, rfl⟩ := mem_flat.1 hv
  rw [hr.split_leaf hleaf] at hno
  exact hno v hleaf

/-- In the flat record a field is found by its whole key alone if the first part of a key with dots is no key. -/
theorem resolve_flat (hr : r.IsNestedRecord)
    (hfirst : '.' ∈ key.toList → ∀ name rest leaf, Text.split key '.' = name :: rest → ([name], leaf) ∉ r.leaves) :
    r.flat.resolve key = r.flat.lookup key := by
  unfold resolve
  dsimp only
  split_ifs with hcond
  · obtain ⟨hnull, hdot⟩ := Bool.and_eq_true_iff.1 hcond
    obtain ⟨name, rest, hsplit⟩ := List.exists_cons_of_ne_nil (Text.split_ne_nil key '.')
    have hplain : '.' ∉ name.toList := Text.notMem_of_mem_split name (by rw [hsplit]; exact List.mem_cons_self)
    have hname : r.flat.lookup name = null := by
      refine hr.lookup_flat_of_notMem fun leaf => ?_
      rw [Text.split_of_notMem hplain]
      exact hfirst (by simpa using hdot) name rest leaf hsplit
    rw [hsplit, follow_cons, hname, null_follow]
    cases hvalue : r.flat.lookup key with
    | null => rfl
    | _ => rw [hvalue] at hnull; cases hnull
  · rfl

theorem resolve_flat_leaf (hr : r.IsNestedRecord) (hleaf : (path, leaf) ∈ r.leaves) :
    r.flat.resolve (Text.join "." path) = leaf := by
  rw [hr.resolve_flat, hr.lookup_flat_leaf hleaf]
  intro hdot name rest leaf' hsplit hleaf'
  rw [hr.split_leaf hleaf] at hsplit
  have hway : [name] <+: path := ⟨rest, hsplit.symm⟩
  -- A leaf at the first part alone would be this very leaf, and its key would have no dot.
  have hpath := (hr.isNested hleaf).prefix_free hleaf' hleaf hway
  rw [← hpath, Text.join, String.intercalate_singleton] at hdot
  exact (hr.isNested hleaf).plain hleaf' name List.mem_cons_self hdot

theorem resolve_flat_apart (hr : r.IsNestedRecord) (hapart : r.Apart (Text.split key '.')) :
    r.flat.resolve key = null := by
  rw [hr.resolve_flat, hr.lookup_flat_of_notMem]
  · exact fun leaf hleaf => (hapart _ hleaf).1 (List.prefix_refl _)
  · intro _ name rest leaf hsplit hleaf
    rw [hsplit] at hapart
    exact (hapart _ hleaf).1 ⟨rest, rfl⟩

end IsNestedRecord

end Segmentation.Value
