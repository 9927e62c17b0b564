import Segmentation.Proofs.Yaml.Scan
import Segmentation.Yaml.Node.Reader

/-!
# The node of a written YAML document

* `node`: the node that a document stands for.
* `Node.Reads`: the tokens of a value are read as its node.
* `ofText_print`: a written document is read as its node.
-/

namespace Segmentation.Yaml

mutual

/-- The node of a document. -/
def node : Json → Node
  | .null => .scalar .null "null"
  | .bool b => .scalar .bool (if b then "true" else "false")
  | .int n => .scalar .int (String.ofList (Integer.digits n))
  | .float x => .scalar .float (String.ofList (x.textList .yaml))
  | .text s => .scalar .text s
  | .array items => .sequence .sequence (nodes items)
  | .object members => .mapping .mapping (memberNodes members)

/-- The nodes of the items of an array. -/
def nodes : List Json → List Node
  | [] => []
  | j :: js => node j :: nodes js

/-- The nodes of the members of an object. -/
def memberNodes : List (String × Json) → List (Node × Node)
  | [] => []
  | (k, j) :: ms => (.scalar .text k, node j) :: memberNodes ms

end

namespace Node

variable {α β : Type} {c c' : Context} {fuel : Nat} {rest : List Token} {place : Place}

theorem run_bind {x : Reading α} {f : α → Reading β} {a : α} (h : x.run c = .ok (a, c')) :
    (x >>= f).run c = (f a).run c' := by
  rw [StateT.run_bind, h]
  rfl

theorem run_map {x : Reading α} {f : α → β} {a : α} (h : x.run c = .ok (a, c')) :
    (f <$> x).run c = .ok (f a, c') := by
  rw [StateT.run_map, h]
  rfl

theorem run_modify (f : Context → Context) : (modify f : Reading Unit).run c = .ok ((), f c) := rfl

/-! ## One node -/

variable (handles : List (String × String)) (anchors : List (String × Option Node))

theorem read_scalar (text : String) (plain : Bool) :
    (read place (fuel + 1)).run ⟨.scalar text plain :: rest, handles, anchors⟩ =
      .ok (scalar (if plain then Scalar.tagOf text else .text) text, ⟨rest, handles, anchors⟩) := by
  rw [read]
  rfl

theorem read_noItems :
    (read place (fuel + 2)).run ⟨.flowSequence :: .flowSequenceEnd :: rest, handles, anchors⟩ =
      .ok (sequence .sequence [], ⟨rest, handles, anchors⟩) := by
  rw [read, flowItems]
  rfl

theorem read_noEntries :
    (read place (fuel + 2)).run ⟨.flowMapping :: .flowMappingEnd :: rest, handles, anchors⟩ =
      .ok (mapping .mapping [], ⟨rest, handles, anchors⟩) := by
  rw [read, flowEntries]
  rfl

theorem read_blockSequence (hplace : place ≠ .flow) {items : List Node}
    (h : (blockItems fuel).run ⟨rest, handles, anchors⟩ = .ok (items, c')) :
    (read place (fuel + 1)).run ⟨.blockSequence :: rest, handles, anchors⟩ =
      .ok (sequence .sequence items, c') := by
  have hcontent := run_bind (f := settle ⟨none, none⟩) (run_map (f := sequence .sequence) h)
  rw [read]
  cases place with
  | flow => exact absurd rfl hplace
  | block => exact hcontent
  | underKey => exact hcontent

theorem read_blockMapping (hplace : place ≠ .flow) {entries : List (Node × Node)}
    (h : (blockEntries fuel).run ⟨rest, handles, anchors⟩ = .ok (entries, c')) :
    (read place (fuel + 1)).run ⟨.blockMapping :: rest, handles, anchors⟩ =
      .ok (mapping .mapping entries, c') := by
  have hcontent := run_bind (f := settle ⟨none, none⟩) (run_map (f := mapping .mapping) h)
  rw [read]
  cases place with
  | flow => exact absurd rfl hplace
  | block => exact hcontent
  | underKey => exact hcontent

theorem readUnless_of_notMem {t : Token} {ends : List Token} (ht : t ∉ ends) :
    (readUnless place ends (fuel + 1)).run ⟨t :: rest, handles, anchors⟩ =
      (read place fuel).run ⟨t :: rest, handles, anchors⟩ := by
  have hno : ends.contains t = false := by simpa using ht
  have hat : (atAny ends).run ⟨t :: rest, handles, anchors⟩ = .ok (false, ⟨t :: rest, handles, anchors⟩) := by
    rw [← hno]
    rfl
  rw [readUnless, run_bind hat]
  rfl

/-! ## Block collections -/

theorem blockItems_end :
    (blockItems (fuel + 1)).run ⟨.blockEnd :: rest, handles, anchors⟩ = .ok ([], ⟨rest, handles, anchors⟩) := by
  rw [blockItems]
  rfl

theorem blockItems_entry {ts : List Token} {item : Node} {items : List Node}
    (hitem : (readUnless .block [.blockEntry, .blockEnd] fuel).run ⟨ts, handles, anchors⟩ =
      .ok (item, ⟨rest, handles, anchors⟩))
    (hitems : (blockItems fuel).run ⟨rest, handles, anchors⟩ = .ok (items, c')) :
    (blockItems (fuel + 1)).run ⟨.blockEntry :: ts, handles, anchors⟩ = .ok (item :: items, c') := by
  have htake : (take .blockEntry).run ⟨.blockEntry :: ts, handles, anchors⟩ = .ok (true, ⟨ts, handles, anchors⟩) :=
    rfl
  rw [blockItems, run_bind htake, if_pos rfl, run_bind hitem, run_bind hitems]
  rfl

theorem blockEntries_end :
    (blockEntries (fuel + 1)).run ⟨.blockEnd :: rest, handles, anchors⟩ = .ok ([], ⟨rest, handles, anchors⟩) := by
  rw [blockEntries]
  rfl

theorem blockEntries_entry {ts us : List Token} {k v : Node} {entries : List (Node × Node)}
    (hkey : (readUnless .underKey [.key, .value, .blockEnd] fuel).run ⟨us, handles, anchors⟩ =
      .ok (k, ⟨.value :: ts, handles, anchors⟩))
    (hvalue : (readUnless .underKey [.key, .value, .blockEnd] fuel).run ⟨ts, handles, anchors⟩ =
      .ok (v, ⟨rest, handles, anchors⟩))
    (hentries : (blockEntries fuel).run ⟨rest, handles, anchors⟩ = .ok (entries, c')) :
    (blockEntries (fuel + 1)).run ⟨.key :: us, handles, anchors⟩ = .ok ((k, v) :: entries, c') := by
  have hend : (take .blockEnd).run ⟨.key :: us, handles, anchors⟩ = .ok (false, ⟨.key :: us, handles, anchors⟩) :=
    rfl
  have htake : (take .key).run ⟨.key :: us, handles, anchors⟩ = .ok (true, ⟨us, handles, anchors⟩) := rfl
  have htake' : (take .value).run ⟨.value :: ts, handles, anchors⟩ = .ok (true, ⟨ts, handles, anchors⟩) := rfl
  rw [blockEntries, run_bind hend, if_neg Bool.false_ne_true, run_bind htake, if_pos rfl, run_bind hkey,
    run_bind htake', if_pos rfl, run_bind hvalue, run_bind hentries]
  rfl

end Node

/-! ## Documents -/

/-- A token with which a value starts. -/
def startsValue : Token → Bool
  | .scalar .. | .flowSequence | .flowMapping | .blockSequence | .blockMapping => true
  | _ => false

theorem tokens_head (j : Json) : ∃ t ts, tokens j = t :: ts ∧ startsValue t = true := by
  cases j with
  | array js => cases js <;> exact ⟨_, _, rfl, rfl⟩
  | object ms => cases ms <;> exact ⟨_, _, rfl, rfl⟩
  | _ => exact ⟨_, _, rfl, rfl⟩

/-- The tokens of a value are read as its node. -/
def Reads (j : Json) : Prop :=
  ∀ (place : Node.Place) (fuel : Nat) (rest : List Token) handles anchors, place ≠ .flow →
    2 * (tokens j).length ≤ fuel →
    (Node.read place fuel).run ⟨tokens j ++ rest, handles, anchors⟩ = .ok (node j, ⟨rest, handles, anchors⟩)

/-- A value is read unless one of some tokens comes next that end a collection or an entry. -/
theorem Reads.unless {j : Json} (hj : Reads j) (place : Node.Place) (fuel : Nat) (rest ends : List Token)
    (handles : List (String × String)) (anchors : List (String × Option Node)) (hplace : place ≠ .flow)
    (hfuel : 2 * (tokens j).length < fuel) (hends : ∀ t ∈ ends, startsValue t = false) :
    (Node.readUnless place ends fuel).run ⟨tokens j ++ rest, handles, anchors⟩ =
      .ok (node j, ⟨rest, handles, anchors⟩) := by
  obtain ⟨fuel, rfl⟩ : ∃ n, fuel = n + 1 := ⟨fuel - 1, by omega⟩
  have hread := hj place fuel rest handles anchors hplace (by omega)
  obtain ⟨t, ts, hts, ht⟩ := tokens_head j
  rw [hts, List.cons_append] at hread ⊢
  rw [Node.readUnless_of_notMem, hread]
  intro hmem
  rw [hends t hmem] at ht
  cases ht

/-- The tokens of items and the end of their sequence are read as their nodes. -/
def ItemsRead (js : List Json) : Prop :=
  ∀ (fuel : Nat) (rest : List Token) handles anchors, 2 * (itemTokens js).length < fuel →
    (Node.blockItems fuel).run ⟨itemTokens js ++ .blockEnd :: rest, handles, anchors⟩ =
      .ok (nodes js, ⟨rest, handles, anchors⟩)

/-- The tokens of members and the end of their mapping are read as their nodes. -/
def MembersRead (ms : List (String × Json)) : Prop :=
  ∀ (fuel : Nat) (rest : List Token) handles anchors, 2 * (memberTokens ms).length < fuel →
    (Node.blockEntries fuel).run ⟨memberTokens ms ++ .blockEnd :: rest, handles, anchors⟩ =
      .ok (memberNodes ms, ⟨rest, handles, anchors⟩)

theorem reads_scalar {j : Json} {text : String} {plain : Bool} (htokens : tokens j = [.scalar text plain])
    (hnode : node j = .scalar (if plain then Scalar.tagOf text else .text) text) : Reads j := by
  intro place fuel rest handles anchors _ hfuel
  rw [htokens] at hfuel ⊢
  obtain ⟨fuel, rfl⟩ : ∃ n, fuel = n + 1 := ⟨fuel - 1, by simp at hfuel; omega⟩
  rw [hnode]
  exact Node.read_scalar handles anchors text plain

theorem reads_array {js : List Json} (hne : js ≠ []) (hjs : ItemsRead js) : Reads (.array js) := by
  intro place fuel rest handles anchors hplace hfuel
  obtain ⟨j, js, rfl⟩ := List.exists_cons_of_ne_nil hne
  rw [tokens] at hfuel ⊢
  obtain ⟨fuel, rfl⟩ : ∃ n, fuel = n + 1 := ⟨fuel - 1, by simp at hfuel; omega⟩
  have hitems := hjs fuel rest handles anchors (by simp at hfuel ⊢; omega)
  rw [List.cons_append, List.append_assoc]
  exact Node.read_blockSequence handles anchors hplace hitems

theorem reads_object {ms : List (String × Json)} (hne : ms ≠ []) (hms : MembersRead ms) : Reads (.object ms) := by
  intro place fuel rest handles anchors hplace hfuel
  obtain ⟨m, ms, rfl⟩ := List.exists_cons_of_ne_nil hne
  rw [tokens] at hfuel ⊢
  obtain ⟨fuel, rfl⟩ : ∃ n, fuel = n + 1 := ⟨fuel - 1, by simp at hfuel; omega⟩
  have hentries := hms fuel rest handles anchors (by simp at hfuel ⊢; omega)
  rw [List.cons_append, List.append_assoc]
  exact Node.read_blockMapping handles anchors hplace hentries

theorem itemsRead_cons {j : Json} {js : List Json} (hj : Reads j) (hjs : ItemsRead js) : ItemsRead (j :: js) := by
  intro fuel rest handles anchors hfuel
  rw [itemTokens] at hfuel ⊢
  simp only [List.length_cons, List.length_append] at hfuel
  obtain ⟨fuel, rfl⟩ : ∃ n, fuel = n + 1 := ⟨fuel - 1, by omega⟩
  have hitem := hj.unless .block fuel (itemTokens js ++ .blockEnd :: rest) [.blockEntry, .blockEnd] handles
    anchors (by decide) (by omega) (by decide)
  rw [List.cons_append, List.append_assoc]
  exact Node.blockItems_entry handles anchors hitem (hjs fuel rest handles anchors (by omega))

theorem membersRead_cons {k : String} {j : Json} {ms : List (String × Json)} (hk : Scalar.tagOf k = .text)
    (hj : Reads j) (hms : MembersRead ms) : MembersRead ((k, j) :: ms) := by
  intro fuel rest handles anchors hfuel
  rw [memberTokens] at hfuel ⊢
  simp only [List.length_cons, List.length_append] at hfuel
  obtain ⟨fuel, rfl⟩ : ∃ n, fuel = n + 3 := ⟨fuel - 3, by omega⟩
  have hkey : (Node.readUnless .underKey [.key, .value, .blockEnd] (fuel + 2)).run
      ⟨.scalar k true :: .value :: (tokens j ++ (memberTokens ms ++ .blockEnd :: rest)), handles, anchors⟩ =
      .ok (.scalar .text k, ⟨.value :: (tokens j ++ (memberTokens ms ++ .blockEnd :: rest)), handles, anchors⟩) := by
    rw [Node.readUnless_of_notMem handles anchors (by simp), Node.read_scalar, if_pos rfl, hk]
  have hvalue := hj.unless .underKey (fuel + 2) (memberTokens ms ++ .blockEnd :: rest) [.key, .value, .blockEnd]
    handles anchors (by decide) (by omega) (by decide)
  have hentries := hms (fuel + 2) rest handles anchors (by omega)
  rw [List.cons_append, List.cons_append, List.cons_append, List.append_assoc]
  exact Node.blockEntries_entry handles anchors hkey hvalue hentries

theorem tagOf_null : Scalar.tagOf "null" = .null := by
  decide +kernel

theorem tagOf_bool (b : Bool) : Scalar.tagOf (if b then "true" else "false") = .bool := by
  cases b <;> decide +kernel

theorem isText_of_isSimpleKey {k : String} (hk : isSimpleKey k = true) : Scalar.tagOf k = .text := by
  simp only [isSimpleKey, Bool.and_eq_true, decide_eq_true_eq] at hk
  exact hk.2

mutual

/-- The tokens of every value are read as its node. -/
theorem reads_of_readable : (j : Json) → Json.Readable .plain j → HasSimpleKeys j → Reads j
  | .null, _, _ => reads_scalar rfl (by rw [if_pos rfl, tagOf_null]; rfl)
  | .bool b, _, _ => reads_scalar rfl (by rw [if_pos rfl, tagOf_bool]; rfl)
  | .int n, _, _ => reads_scalar rfl (by rw [if_pos rfl, Scalar.tagOf_digits]; rfl)
  | .float x, hx, _ => reads_scalar rfl (by rw [if_pos rfl, Scalar.tagOf_textList hx]; rfl)
  | .text s, _, _ => reads_scalar rfl rfl
  | .array [], _, _ => by
    intro place fuel rest handles anchors _ hfuel
    obtain ⟨fuel, rfl⟩ : ∃ n, fuel = n + 2 := ⟨fuel - 2, by simp [tokens] at hfuel; omega⟩
    exact Node.read_noItems handles anchors
  | .array (j :: js), hj, hkeys => reads_array (by simp) (itemsRead_of_readable (j :: js) hj hkeys)
  | .object [], _, _ => by
    intro place fuel rest handles anchors _ hfuel
    obtain ⟨fuel, rfl⟩ : ∃ n, fuel = n + 2 := ⟨fuel - 2, by simp [tokens] at hfuel; omega⟩
    exact Node.read_noEntries handles anchors
  | .object (m :: ms), hj, hkeys => reads_object (by simp) (membersRead_of_readable (m :: ms) hj.2 hkeys)

theorem itemsRead_of_readable : (js : List Json) → Json.AllReadable .plain js → AllSimpleKeys js → ItemsRead js
  | [], _, _ => by
    intro fuel rest handles anchors hfuel
    obtain ⟨fuel, rfl⟩ : ∃ n, fuel = n + 1 := ⟨fuel - 1, by omega⟩
    exact Node.blockItems_end handles anchors
  | j :: js, hjs, hkeys =>
    itemsRead_cons (reads_of_readable j hjs.1 hkeys.1) (itemsRead_of_readable js hjs.2 hkeys.2)

theorem membersRead_of_readable : (ms : List (String × Json)) → Json.MembersReadable .plain ms → MembersSimpleKeys ms →
    MembersRead ms
  | [], _, _ => by
    intro fuel rest handles anchors hfuel
    obtain ⟨fuel, rfl⟩ : ∃ n, fuel = n + 1 := ⟨fuel - 1, by omega⟩
    exact Node.blockEntries_end handles anchors
  | (k, j) :: ms, hms, hkeys =>
    membersRead_cons (isText_of_isSimpleKey hkeys.1.1) (reads_of_readable j hms.1 hkeys.2.1)
      (membersRead_of_readable ms hms.2 hkeys.2.2)

end

/-- A written mapping is read as its node. -/
theorem Node.ofText_print {m : String × Json} {ms : List (String × Json)}
    (hj : Json.Readable .plain (.object (m :: ms))) (hkeys : HasSimpleKeys (.object (m :: ms))) :
    Node.ofText (print (.object (m :: ms))) = .ok (node (.object (m :: ms))) := by
  set ts := tokens (.object (m :: ms)) with hts
  have hread := reads_of_readable _ hj hkeys .block (3 * ts.length + 3) [] standardHandles [] (by decide)
    (by rw [hts]; omega)
  rw [← hts, List.append_nil] at hread
  have hcons : ts = .blockMapping :: (memberTokens (m :: ms) ++ [.blockEnd]) := by rw [hts, tokens]
  have hnext : next.run ⟨ts, [], []⟩ = .ok (some .blockMapping, ⟨ts, [], []⟩) := by
    rw [hcons]
    rfl
  have hdocument : (document (3 * ts.length + 3)).run ⟨ts, [], []⟩ =
      .ok (node (.object (m :: ms)), ⟨[], standardHandles, []⟩) := by
    unfold document
    rw [run_bind hnext]
    dsimp only
    rw [if_neg (by decide), run_bind (run_modify _), run_bind hread, run_bind (run_modify _)]
    rfl
  rw [ofText, scan_print hj hkeys, ← hts]
  simp only [bind, Except.bind, hdocument]
  rfl

end Segmentation.Yaml
