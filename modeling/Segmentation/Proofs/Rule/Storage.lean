import Mathlib.Data.List.Forall2
import Segmentation.Proofs.Number.Integers
import Segmentation.Proofs.Rule.Checking

/-!
# Trees that survive storage

A tree survives storage if it is written as text, and the text is decoded as an equal tree.

* `Group.FitsText`, `Group.decode_print`: the text of a tree is decoded as the tree exactly if the limits of JSON text
  let it through.
* `Json.print_written`: floating-point numbers without digits are written as nothing is.
* `Group.same_iff`, `Group.EachCondition.of_same`: equal trees are equal node by node.
* `Group.survives_iff`: a tree survives storage exactly if it is shallow and all of its conditions are storable.
-/

namespace Segmentation

/-! ## Documents -/

namespace Json

mutual

/-- The document with nothing in the place of floating-point numbers without digits. -/
def written : Json → Json
  | float x => if x.isFinite then float x else null
  | array items => array (writtenItems items)
  | object members => object (writtenMembers members)
  | j => j

/-- The items of an array, each as it is written. -/
def writtenItems : List Json → List Json
  | [] => []
  | j :: js => written j :: writtenItems js

/-- The members of an object, each as it is written. -/
def writtenMembers : List (String × Json) → List (String × Json)
  | [] => []
  | (k, j) :: ms => (k, written j) :: writtenMembers ms

end

theorem writtenItems_eq (js : List Json) : writtenItems js = js.map written := by
  induction js with
  | nil => rfl
  | cons j js ih => rw [writtenItems, ih, List.map_cons]

mutual

theorem write_written (indent : Option Nat) (level : Nat) : (j : Json) →
    write indent level j.written = write indent level j
  | null | bool _ | int _ | text _ | array [] | object [] => rfl
  | float x => by rcases x with _ | ⟨_ | _⟩ | _ <;> rfl
  | array (j :: js) => by
    simp only [written, writtenItems, write, write_written indent (level + 1) j, writeItems_written]
  | object ((k, j) :: ms) => by
    simp only [written, writtenMembers, write, write_written indent (level + 1) j, writeMembers_written]

theorem writeItems_written (indent : Option Nat) (level : Nat) : (js : List Json) →
    writeItems indent level (writtenItems js) = writeItems indent level js
  | [] => rfl
  | j :: js => by
    simp only [writtenItems, writeItems, write_written indent level j, writeItems_written indent level js]

theorem writeMembers_written (indent : Option Nat) (level : Nat) : (ms : List (String × Json)) →
    writeMembers indent level (writtenMembers ms) = writeMembers indent level ms
  | [] => rfl
  | (k, j) :: ms => by
    simp only [writtenMembers, writeMembers, write_written indent level j, writeMembers_written indent level ms]

end

mutual

theorem depth_written : (j : Json) → j.written.depth = j.depth
  | null | bool _ | int _ | text _ | array [] | object [] => rfl
  | float x => by rcases x with _ | _ | _ <;> rfl
  | array (j :: js) => by
    simp only [written, writtenItems, depth, depth_written j, itemsDepth_written js]
  | object ((k, j) :: ms) => by
    simp only [written, writtenMembers, depth, depth_written j, membersDepth_written ms]

theorem itemsDepth_written : (js : List Json) → itemsDepth (writtenItems js) = itemsDepth js
  | [] => rfl
  | j :: js => by simp only [writtenItems, itemsDepth, depth_written j, itemsDepth_written js]

theorem membersDepth_written : (ms : List (String × Json)) → membersDepth (writtenMembers ms) = membersDepth ms
  | [] => rfl
  | (_, j) :: ms => by simp only [writtenMembers, membersDepth, depth_written j, membersDepth_written ms]

end

/-- Nothing is written for a floating-point number without digits. -/
theorem print_written (indent : Option Nat) (j : Json) : j.written.print indent = j.print indent := by
  rw [print, write_written, print]

end Json

/-! ## Operands -/

namespace Operand

/-- The operand can be written and read again. -/
structure Storable (o : Operand) : Prop where
  isShort : o.IntegerHas Integer.IsShort
  isFinite : o.IsFinite

/-- What is read where the operand was written. -/
def written : Operand → Operand
  | float x => if x.isFinite then float x else null
  | o => o

theorem encode_written (o : Operand) : o.written.encode = o.encode.written := by
  cases o with
  | float x => cases x <;> rfl
  | texts items =>
    change Json.array _ = .array (Json.writtenItems _)
    rw [Json.writtenItems_eq, List.map_map]
    rfl
  | _ => rfl

theorem isFinite_written (o : Operand) : o.written.IsFinite := by
  cases o with
  | float x =>
    rw [written]
    split_ifs with hx
    · exact hx
    · trivial
  | _ => trivial

theorem same_self {o : Operand} (h : o.IsFinite) : o.same o = true := by
  cases o with
  | float x => simp [same, Binary64.sameValue, Binary64.isNan_of_isFinite h]
  | _ => simp [same]

end Operand

/-- Only a finite number has the value of a finite one. -/
theorem Binary64.isFinite_of_sameValue {x y : Binary64} (h : x.sameValue y = true) (hx : x.isFinite = true) :
    y.isFinite = true := by
  obtain ⟨⟨-, hnan⟩, hposition⟩ : (x.isNan = false ∧ y.isNan = false) ∧ x.position = y.position := by
    simpa [sameValue] using h
  cases x with
  | nan => cases hx
  | infinite negative => cases hx
  | finite negative mant exp hcanonical =>
    cases y with
    | nan => cases hnan
    | finite => rfl
    | infinite negative' =>
      have hbelow := lt_horizon hcanonical
      rw [position_finite, position_infinite] at hposition
      have habs := congrArg Int.natAbs hposition
      rw [natAbs_signed, natAbs_signed] at habs
      exact absurd habs hbelow.ne

namespace Operand

variable {a b : Operand}

theorem eq_or_float_of_same (h : a.same b = true) :
    a = b ∨ ∃ x y, a = float x ∧ b = float y ∧ x.sameValue y = true := by
  unfold same at h
  split at h
  · exact .inr ⟨_, _, rfl, rfl, h⟩
  · exact .inl (of_decide_eq_true h)

theorem IntegerHas.of_same {p : Int → Prop} (h : a.same b = true) (ha : a.IntegerHas p) : b.IntegerHas p := by
  rcases eq_or_float_of_same h with rfl | ⟨x, y, rfl, rfl, -⟩
  · exact ha
  · trivial

theorem IsFinite.of_same (h : a.same b = true) (ha : a.IsFinite) : b.IsFinite := by
  rcases eq_or_float_of_same h with rfl | ⟨x, y, rfl, rfl, hvalue⟩
  · exact ha
  · exact Binary64.isFinite_of_sameValue hvalue ha

end Operand

/-! ## Conditions -/

namespace Condition

/-- The condition can be written and read again. -/
structure Storable (c : Condition) : Prop where
  settled : c.Settled
  value : c.value.Storable
  value2 : c.value2.Storable

theorem Storable.isFinite {c : Condition} (h : c.Storable) : c.IsFinite :=
  ⟨h.value.isFinite, h.value2.isFinite⟩

theorem Storable.integersShort {c : Condition} (h : c.Storable) : c.IntegersHave Integer.IsShort :=
  ⟨h.value.isShort, h.value2.isShort⟩

theorem depth_encode_le (c : Condition) : c.encode.depth ≤ 2 := by
  have hoperand (o : Operand) : o.encode.depth ≤ 1 := by
    cases o with
    | texts items =>
      have hitems : Json.itemsDepth (items.map .text) ≤ 0 := Json.itemsDepth_le_iff.2 fun j hj => by
        obtain ⟨s, -, rfl⟩ := List.mem_map.1 hj
        exact Nat.le_refl 0
      exact Nat.le_trans Json.depth_array_le (Nat.add_le_add_left hitems 1)
    | _ => simp [Operand.encode, Json.depth]
  have := hoperand c.value
  have := hoperand c.value2
  simp only [encode, Json.depth, Json.membersDepth]
  omega

/-- What is read where the condition was written. -/
def written (c : Condition) : Condition :=
  { c with value := c.value.written, value2 := c.value2.written }

theorem encode_written (c : Condition) : c.written.encode = c.encode.written := by
  rw [encode, encode]
  simp only [written, Json.written, Json.writtenMembers, Operand.encode_written]

theorem settled_written {c : Condition} : c.written.Settled ↔ c.Settled :=
  Iff.rfl

theorem isFinite_written (c : Condition) : c.written.IsFinite :=
  ⟨c.value.isFinite_written, c.value2.isFinite_written⟩

theorem same_self {c : Condition} (hc : c.IsFinite) : c.same c = true := by
  simp [same, Operand.same_self hc.value, Operand.same_self hc.value2]

variable {a b : Condition}

theorem same_iff : a.same b = true ↔ a.id = b.id ∧ a.field = b.field ∧ a.operator = b.operator ∧
    a.value.same b.value = true ∧ a.value2.same b.value2 = true := by
  simp [same, and_assoc]

theorem Settled.of_same (h : a.same b = true) (ha : a.Settled) : b.Settled := by
  obtain ⟨-, -, hoperator, -, -⟩ := same_iff.1 h
  rw [Settled, ← hoperator]
  exact ha

theorem Storable.of_same (h : a.same b = true) (ha : a.Storable) : b.Storable := by
  obtain ⟨-, -, -, hvalue, hvalue2⟩ := same_iff.1 h
  exact ⟨ha.settled.of_same h, ⟨ha.value.isShort.of_same hvalue, ha.value.isFinite.of_same hvalue⟩,
    ⟨ha.value2.isShort.of_same hvalue2, ha.value2.isFinite.of_same hvalue2⟩⟩

end Condition

/-! ## Trees -/

namespace Group

mutual

/-- What is read where the tree was written. -/
def written : Group → Group
  | ⟨id, connective, conditions, groups⟩ =>
    ⟨id, connective, conditions.map Condition.written, writtenAll groups⟩

/-- What is read where several trees were written. -/
def writtenAll : List Group → List Group
  | [] => []
  | g :: gs => written g :: writtenAll gs

end

theorem writtenAll_eq (gs : List Group) : writtenAll gs = gs.map written := by
  induction gs with
  | nil => rfl
  | cons g gs ih => rw [writtenAll, ih, List.map_cons]

theorem written_eq (g : Group) : g.written =
    { g with conditions := g.conditions.map Condition.written, groups := g.groups.map written } := by
  cases g with
  | mk id connective conditions groups => rw [written, writtenAll_eq]

theorem encode_written (t : Group) : t.written.encode = t.encode.written := by
  induction t with
  | node g ih =>
    rw [written_eq, encode_eq, encode_eq]
    simp only [Json.written, Json.writtenMembers, Json.writtenItems_eq, List.map_map]
    have hconditions : g.conditions.map (Condition.encode ∘ Condition.written) =
        g.conditions.map (Json.written ∘ Condition.encode) :=
      List.map_congr_left fun c _ => c.encode_written
    have hgroups : g.groups.map (encode ∘ written) = g.groups.map (Json.written ∘ encode) :=
      List.map_congr_left ih
    rw [hconditions, hgroups]

/-- What holds of each condition as it is written holds of each condition of the tree as it is written. -/
theorem EachCondition.written {p : Condition → Prop} {t : Group} (ht : t.EachCondition fun c => p c.written) :
    t.written.EachCondition p := by
  induction t with
  | node g ih =>
    rw [written_eq]
    obtain ⟨hown, hsubs⟩ := eachCondition_iff.1 ht
    refine eachCondition_iff.2 ⟨?_, ?_⟩
    · rintro c hc
      obtain ⟨d, hd, rfl⟩ := List.mem_map.1 hc
      exact hown d hd
    · rintro sub hsub
      obtain ⟨s, hs, rfl⟩ := List.mem_map.1 hsub
      exact ih s hs (hsubs s hs)

/-! ## Equal trees -/

variable {t u : Group}

theorem sames_iff {ts us : List Group} :
    sames ts us = true ↔ List.Forall₂ (fun a b => a.same b = true) ts us := by
  induction ts generalizing us with
  | nil => cases us <;> simp [sames]
  | cons t ts ih => cases us <;> simp [sames, ih]

/-- Equal trees are equal at the root, condition by condition and sub-group by sub-group. -/
theorem same_iff : t.same u = true ↔ t.id = u.id ∧ t.connective = u.connective ∧
    List.Forall₂ (fun a b => a.same b = true) t.conditions u.conditions ∧
    List.Forall₂ (fun a b => a.same b = true) t.groups u.groups := by
  cases t with
  | mk id connective conditions groups =>
    have hconditions := @List.forall₂_iff_zip _ _ (fun a b : Condition => a.same b = true) conditions u.conditions
    rw [same]
    simp only [Bool.and_eq_true, decide_eq_true_iff, sames_iff, hconditions, List.all_eq_true, Prod.forall, and_assoc]

theorem same_self (ht : t.EachCondition Condition.IsFinite) : t.same t = true := by
  induction t with
  | node g ih =>
    obtain ⟨hown, hsubs⟩ := eachCondition_iff.1 ht
    exact same_iff.2 ⟨rfl, rfl, List.forall₂_same.2 fun c hc => Condition.same_self (hown c hc),
      List.forall₂_same.2 fun sub hsub => ih sub hsub (hsubs sub hsub)⟩

theorem exists_of_mem_right {α β : Type} {R : α → β → Prop} {xs : List α} {ys : List β}
    (h : List.Forall₂ R xs ys) : ∀ y ∈ ys, ∃ x ∈ xs, R x y := by
  induction h with
  | nil => exact fun y hy => by cases hy
  | cons hxy hrest ih =>
    refine List.forall_mem_cons.2 ⟨⟨_, List.mem_cons_self, hxy⟩, fun y hy => ?_⟩
    obtain ⟨x, hx, h⟩ := ih y hy
    exact ⟨x, List.mem_cons_of_mem _ hx, h⟩

/-- What holds of each condition of a tree holds of each one of an equal tree, if it is kept between equal
conditions. -/
theorem EachCondition.of_same {p : Condition → Prop} (hp : ∀ a b : Condition, a.same b = true → p a → p b)
    (h : t.same u = true) (ht : t.EachCondition p) : u.EachCondition p := by
  induction t generalizing u with
  | node t ih =>
    obtain ⟨-, -, hconditions, hgroups⟩ := same_iff.1 h
    obtain ⟨hown, hsubs⟩ := eachCondition_iff.1 ht
    refine eachCondition_iff.2 ⟨fun c hc => ?_, fun sub hsub => ?_⟩
    · obtain ⟨d, hd, hsame⟩ := exists_of_mem_right hconditions c hc
      exact hp d c hsame (hown d hd)
    · obtain ⟨s, hs, hsame⟩ := exists_of_mem_right hgroups sub hsub
      exact ih s hs hsame (hsubs s hs)

/-! ## Trees as text -/

section

variable [Limits]

/-- The limits of JSON text let the tree through: its text is not nested too deep, and none of its integers is longer
than the longest number, with its sign. -/
structure FitsText (t : Group) : Prop where
  depth : t.encode.depth ≤ Limits.text
  integers : t.EachCondition (Condition.IntegersHave Integer.IsShort)

theorem fitsText_iff (hfinite : t.EachCondition Condition.IsFinite) : t.FitsText ↔
    Json.Readable .strict t.encode ∧ ∀ n ∈ (Json.Dialect.strict).nesting, t.encode.depth ≤ n := by
  have hadmits : Integer.IsShort = Json.Dialect.strict.Admits := funext fun n => propext Json.Dialect.admits_strict.symm
  rw [readable_encode, ← hadmits]
  constructor
  · rintro ⟨hdepth, hintegers⟩
    exact ⟨fun c hc => ⟨hintegers c hc, hfinite c hc⟩, fun n hn => Option.mem_some_iff.1 hn ▸ hdepth⟩
  · rintro ⟨hreadable, hdepth⟩
    exact ⟨hdepth _ rfl, fun c hc => (hreadable c hc).1⟩

omit [Limits] in
theorem readable_free (hfinite : t.EachCondition Condition.IsFinite) : Json.Readable .free t.encode := by
  have hinteger (o : Operand) : o.IntegerHas Json.Dialect.free.Admits := by
    cases o <;> trivial
  exact (readable_encode .free t).2 fun c hc => ⟨⟨hinteger _, hinteger _⟩, hfinite c hc⟩

/-- The text of a tree without floating-point numbers that have no digits is decoded as the tree, or it is refused as no
JSON text that can be read. -/
theorem decode_print (ht : t.EachCondition Condition.Settled) (hfinite : t.EachCondition Condition.IsFinite)
    (indent : Option Nat) :
    (t.FitsText → decode (.text (t.encode.print indent)) = pure (.ok t)) ∧
      (¬ t.FitsText → decode (.text (t.encode.print indent)) = pure (.error (.problems [⟨[], .notJson⟩]))) := by
  have hread := @Json.read_print_iff .strict _ (readable_free hfinite) indent
  rw [← fitsText_iff hfinite] at hread
  refine ⟨fun hfits => decode_of_read ht (hread.2 hfits), fun hfits => ?_⟩
  cases hresult : Json.read .strict (t.encode.print indent) with
  | error fault =>
    simp only [decode, checkText, hresult, pure_bind]
    rfl
  | ok j =>
    have hfree := (Json.read_eq_ok_iff.1 hresult).1
    rw [Json.read_print (readable_free hfinite) fun n hn => absurd hn (Option.not_mem_none n)] at hfree
    cases hfree
    exact absurd (hread.1 hresult) hfits

/-! ## Survival -/

theorem encodeText_eq_ok {indent : Option Nat} {s : String} :
    t.encodeText indent = .ok s ↔ t.depth ≤ Limits.written ∧ s = t.encode.print indent := by
  unfold encodeText encodeData
  split_ifs with hdeep
  · exact iff_of_false nofun fun h => Nat.not_lt.2 h.1 hdeep
  · simp [Except.map, Nat.not_lt.1 hdeep, eq_comm]

/-- The tree is written as text, and the text is decoded as an equal tree. -/
def Survives (t : Group) (indent : Option Nat) (supply : IdSupply) : Prop :=
  ∃ s t', t.encodeText indent = .ok s ∧ ((decode (.text s)).run supply).1 = .ok t' ∧ t'.same t = true

/-- Neither the groups of the tree nor the brackets of its text lie too deep in each other. -/
structure IsShallow (t : Group) : Prop where
  groups : t.depth ≤ Limits.written
  text : t.encode.depth ≤ Limits.text

omit [Limits] in
/-- Each level of a tree adds two brackets to its text, and a condition with a list adds two more. -/
theorem depth_encode_le (t : Group) : t.encode.depth ≤ 2 * t.depth + 2 := by
  induction t with
  | node g ih =>
    have hconditions : Json.itemsDepth (g.conditions.map Condition.encode) ≤ 2 :=
      Json.itemsDepth_le_iff.2 fun j hj => by
        obtain ⟨c, -, rfl⟩ := List.mem_map.1 hj
        exact c.depth_encode_le
    have hgroups : Json.itemsDepth (g.groups.map encode) ≤ 2 * g.depth :=
      Json.itemsDepth_le_iff.2 fun j hj => by
        obtain ⟨sub, hsub, rfl⟩ := List.mem_map.1 hj
        obtain ⟨hpos, hsubs⟩ := depth_le_iff.1 (Nat.le_refl g.depth)
        have := ih sub hsub
        have := hsubs sub hsub
        omega
    have hpos := (depth_le_iff.1 (Nat.le_refl g.depth)).1
    have hconditions := Nat.le_trans Json.depth_array_le (Nat.add_le_add_left hconditions 1)
    have hgroups := Nat.le_trans Json.depth_array_le (Nat.add_le_add_left hgroups 1)
    rw [encode_eq]
    simp only [Json.depth, Json.membersDepth]
    omega

theorem isShallow_of_depth_le (hgroups : t.depth ≤ Limits.written) (htext : 2 * t.depth + 2 ≤ Limits.text) :
    t.IsShallow :=
  ⟨hgroups, Nat.le_trans t.depth_encode_le htext⟩

/-- A tree survives storage exactly if it is shallow and all of its conditions are storable. -/
theorem survives_iff (indent : Option Nat) (supply : IdSupply) :
    t.Survives indent supply ↔ t.IsShallow ∧ t.EachCondition Condition.Storable := by
  constructor
  · rintro ⟨s, t', hs, hdecode, hsame⟩
    obtain ⟨hgroups, rfl⟩ := encodeText_eq_ok.1 hs
    -- What was decoded is settled, and so is a tree that is equal to it.
    have hjson : (Value.text (t.encode.print indent)).IsJson := trivial
    have hsettled : t.EachCondition Condition.Settled :=
      (decode_settled (.inl hjson) hdecode).of_same (fun a b hab ha => ha.of_same hab) hsame
    have hwritten : t.written.EachCondition Condition.Settled :=
      EachCondition.written fun c hc => Condition.settled_written.2 (hsettled c hc)
    have hfinite : t.written.EachCondition Condition.IsFinite :=
      EachCondition.written fun c _ => c.isFinite_written
    obtain ⟨hfits, hrefused⟩ := decode_print hwritten hfinite indent
    rw [encode_written, Json.print_written] at hfits hrefused
    have htext : t.written.FitsText := by
      by_contra hnot
      rw [hrefused hnot] at hdecode
      cases hdecode
    rw [hfits htext] at hdecode
    cases hdecode
    refine ⟨⟨hgroups, ?_⟩, EachCondition.of_same (fun a b hab ha => ha.of_same hab) hsame fun c hc => ?_⟩
    · have hdepth := htext.depth
      rwa [encode_written, Json.depth_written] at hdepth
    · exact ⟨hwritten c hc, ⟨(htext.integers c hc).value, (hfinite c hc).value⟩,
        (htext.integers c hc).value2, (hfinite c hc).value2⟩
  · rintro ⟨hshallow, ht⟩
    have hfinite : t.EachCondition Condition.IsFinite := fun c hc => (ht c hc).isFinite
    refine ⟨_, t, encodeText_eq_ok.2 ⟨hshallow.groups, rfl⟩, ?_, same_self hfinite⟩
    rw [(decode_print (fun c hc => (ht c hc).settled) hfinite indent).1
      ⟨hshallow.text, fun c hc => (ht c hc).integersShort⟩]
    rfl

/-- A condition beside others that are storable decides whether a shallow tree survives. -/
theorem survives_iff_storable {c : Condition} (hmem : c ∈ t.allConditions)
    (hothers : ∀ d ∈ t.allConditions, d = c ∨ d.Storable) (indent : Option Nat) (supply : IdSupply) :
    t.Survives indent supply ↔ t.IsShallow ∧ c.Storable := by
  rw [survives_iff]
  refine and_congr_right fun _ => ⟨fun h => h c hmem, fun h d hd => ?_⟩
  rcases hothers d hd with rfl | hd
  · exact h
  · exact hd

end

end Group

end Segmentation
