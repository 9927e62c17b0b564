import Segmentation.Proofs.Yaml.Nodes
import Segmentation.Yaml.Reader

/-!
# Reading back a written YAML document

* `foldl_setEntry`: entries with different names are kept in order.
* `value_node`: the node of a document stands for the value of the document.
* `ofText_print`: a document that is written is read as its value.
-/

namespace Segmentation.Yaml

/-! ## Entries -/

theorem sameKey_text (k l : String) : (Value.text k).sameKey (.text l) = decide (k = l) := rfl

theorem setEntry_append {done : List (Value × Value)} {k : String} (v : Value)
    (h : ∀ e ∈ done, e.1.sameKey (.text k) = false) :
    Value.setEntry done (.text k) v = done ++ [(.text k, v)] := by
  rw [Value.setEntry, if_neg]
  rw [List.any_eq_true]
  rintro ⟨e, he, hsame⟩
  exact Bool.false_ne_true ((h e he).symm.trans hsame)

/-- Entries under different names are taken one after another. -/
theorem foldl_setEntry (ms : List (String × Json)) (hnodup : (ms.map (·.1)).Nodup)
    (done : List (Value × Value)) (hdone : ∀ k ∈ ms.map (·.1), ∀ e ∈ done, e.1.sameKey (.text k) = false) :
    (Json.toEntries ms).foldl (fun done e => Value.setEntry done e.1 e.2) done = done ++ Json.toEntries ms := by
  induction ms generalizing done with
  | nil => simp [Json.toEntries]
  | cons m ms ih =>
    obtain ⟨k, j⟩ := m
    rw [List.map_cons, List.nodup_cons] at hnodup
    rw [List.map_cons, List.forall_mem_cons] at hdone
    rw [Json.toEntries, List.foldl_cons, setEntry_append _ hdone.1, ih hnodup.2 _ ?_, List.append_assoc,
      List.singleton_append]
    intro l hl e he
    rcases List.mem_append.1 he with he | he
    · exact hdone.2 l hl e he
    · rw [List.mem_singleton.1 he, sameKey_text, decide_eq_false_iff_not]
      rintro rfl
      exact hnodup.1 hl

/-- No key of a written document takes over the entries of another mapping. -/
theorem merged_memberNodes (fuel : Nat) (ms : List (String × Json)) :
    Node.merged (fuel + 1) (memberNodes ms) = some (memberNodes ms) := by
  have htag : ∀ e ∈ memberNodes ms, e.1.tag = .text := by
    induction ms with
    | nil => exact fun e he => by cases he
    | cons m ms ih =>
      rw [memberNodes, List.forall_mem_cons]
      exact ⟨rfl, ih⟩
  have hnone : (memberNodes ms).filter (·.1.tag = .merge) = [] :=
    List.filter_eq_nil_iff.2 fun e he => by simp [htag e he]
  have hall : (memberNodes ms).filter (·.1.tag ≠ .merge) = memberNodes ms :=
    List.filter_eq_self.2 fun e he => by simp [htag e he]
  rw [Node.merged, hnone, hall]
  rfl

/-! ## Values -/

/-- The node of a document stands for its value, at any depth. -/
def Stands (j : Json) : Prop :=
  ∀ depth fuel : Nat, (node j).depth ≤ fuel → (node j).value depth fuel = .ok j.toValue

/-- The tags of text that stands for something by itself. -/
def scalarTags : List Tag :=
  [.null, .bool, .int, .float, .text]

theorem value_scalar {tag : Tag} {text : String} {v : Value} (htag : tag ∈ scalarTags)
    (hread : Scalar.read tag text = .ok v) (depth fuel : Nat) :
    (Node.scalar tag text).value depth (fuel + 1) = .ok v := by
  have hvalue : (Node.scalar tag text).value depth (fuel + 1) = (Scalar.read tag text).mapError (depth, ·) := by
    simp only [scalarTags, List.mem_cons, List.not_mem_nil, or_false] at htag
    rcases htag with rfl | rfl | rfl | rfl | rfl <;> rfl
  rw [hvalue, hread]
  rfl

theorem read_bool (b : Bool) :
    Scalar.read .bool (if b then "true" else "false") = .ok (.bool b) := by
  have hlower : ∀ b : Bool, List.lookup (Text.lower (if b then "true" else "false")) Scalar.truthValues = some b := by
    decide +kernel
  rw [Scalar.read, hlower]

theorem stands_scalar {j : Json} {tag : Tag} {text : String} (hnode : node j = .scalar tag text)
    (htag : tag ∈ scalarTags) (hread : Scalar.read tag text = .ok j.toValue) : Stands j := by
  intro depth fuel hfuel
  rw [hnode] at hfuel ⊢
  obtain ⟨fuel, rfl⟩ : ∃ n, fuel = n + 1 := ⟨fuel - 1, by simp [Node.depth] at hfuel; omega⟩
  exact value_scalar htag hread depth fuel

theorem stands_array {js : List Json} (h : ∀ j ∈ js, Stands j) : Stands (.array js) := by
  intro depth fuel hfuel
  rw [node, Node.depth] at hfuel
  obtain ⟨fuel, rfl⟩ : ∃ n, fuel = n + 1 := ⟨fuel - 1, by omega⟩
  have hall : Outcome.all (Node.value (depth + 1) fuel) (nodes js) = .ok (Json.toValues js) := by
    have hdepth : Node.depths (nodes js) ≤ fuel := Nat.le_of_succ_le_succ hfuel
    clear hfuel
    induction js with
    | nil => rfl
    | cons j js ih =>
      rw [List.forall_mem_cons] at h
      rw [nodes, Node.depths, Nat.max_le] at hdepth
      rw [nodes, Outcome.all, h.1 (depth + 1) fuel hdepth.1, ih h.2 hdepth.2]
      rfl
  have hvalue : (Node.sequence .sequence (nodes js)).value depth (fuel + 1) =
      (Outcome.all (Node.value (depth + 1) fuel) (nodes js)).map (.collection .list) := rfl
  rw [node, hvalue, hall]
  rfl

theorem stands_object {ms : List (String × Json)} (hnodup : (ms.map (·.1)).Nodup) (h : ∀ m ∈ ms, Stands m.2) :
    Stands (.object ms) := by
  intro depth fuel hfuel
  rw [node, Node.depth] at hfuel
  obtain ⟨fuel, rfl⟩ : ∃ n, fuel = n + 1 := ⟨fuel - 1, by omega⟩
  have hall : Outcome.all (fun e : Node × Node => Outcome.both
        (Node.readKey (depth + 1) (Node.value (depth + 1) fuel e.1.asKey)) (Node.value (depth + 1) fuel e.2))
      (memberNodes ms) = .ok (Json.toEntries ms) := by
    have hdepth : Node.entryDepths (memberNodes ms) ≤ fuel := Nat.le_of_succ_le_succ hfuel
    clear hfuel hnodup
    induction ms with
    | nil => rfl
    | cons m ms ih =>
      obtain ⟨k, j⟩ := m
      rw [List.forall_mem_cons] at h
      rw [memberNodes, Node.entryDepths, Nat.max_le, Nat.max_le] at hdepth
      obtain ⟨⟨hkey, hvalue⟩, hrest⟩ := hdepth
      obtain ⟨fuel, rfl⟩ : ∃ n, fuel = n + 1 := ⟨fuel - 1, by simp [Node.depth] at hkey; omega⟩
      have hk : Node.readKey (depth + 1) (Node.value (depth + 1) (fuel + 1) (Node.scalar .text k).asKey) =
          .ok (.text k) := by
        rw [Node.asKey, value_scalar (by decide) rfl]
        · rfl
        · simp
      rw [memberNodes, Outcome.all, hk, h.1 (depth + 1) _ hvalue, ih h.2 hrest]
      rfl
  have hentries := foldl_setEntry ms hnodup [] (by simp)
  rw [node, Node.value]
  · dsimp only
    rw [merged_memberNodes]
    dsimp only
    rw [hall]
    exact congrArg (fun es => Except.ok (Value.mapping es)) hentries
  · rfl

mutual

/-- Every node of a document stands for its value. -/
theorem stands_of_readable : (j : Json) → Json.Readable .plain j → HasSimpleKeys j → Stands j
  | .null, _, _ => stands_scalar rfl (by decide) rfl
  | .bool b, _, _ => stands_scalar rfl (by decide) (read_bool b)
  | .int _, hn, _ => stands_scalar rfl (by decide) (Scalar.read_digits (Json.Dialect.admits_plain.1 hn))
  | .float _, hx, _ => stands_scalar rfl (by decide) (Scalar.read_textList hx)
  | .text _, _, _ => stands_scalar rfl (by decide) rfl
  | .array js, hjs, hkeys => stands_array (allStand_of_readable js hjs hkeys)
  | .object ms, hms, hkeys => stands_object hms.1 (membersStand_of_readable ms hms.2 hkeys)

theorem allStand_of_readable : (js : List Json) → Json.AllReadable .plain js → AllSimpleKeys js → ∀ j ∈ js, Stands j
  | [], _, _ => fun _ h => by cases h
  | j :: js, hjs, hkeys => List.forall_mem_cons.2
    ⟨stands_of_readable j hjs.1 hkeys.1, allStand_of_readable js hjs.2 hkeys.2⟩

theorem membersStand_of_readable : (ms : List (String × Json)) → Json.MembersReadable .plain ms →
    MembersSimpleKeys ms → ∀ m ∈ ms, Stands m.2
  | [], _, _ => fun _ h => by cases h
  | (_, j) :: ms, hms, hkeys => List.forall_mem_cons.2
    ⟨stands_of_readable j hms.1 hkeys.2.1, membersStand_of_readable ms hms.2 hkeys.2.2⟩

end

/-- A mapping that is written is read as its value. -/
theorem ofText_print {m : String × Json} {ms : List (String × Json)} (hj : Json.Readable .plain (.object (m :: ms)))
    (hkeys : HasSimpleKeys (.object (m :: ms))) :
    ofText (print (.object (m :: ms))) = .ok (Json.object (m :: ms)).toValue := by
  unfold ofText
  rw [Node.ofText_print hj hkeys]
  change Except.mapError _ (Node.value 0 _ _) = _
  rw [stands_of_readable _ hj hkeys 0 _ (Nat.le_succ _)]
  rfl

end Segmentation.Yaml
