import Segmentation.Console.Configuration
import Segmentation.Proofs.Segment.Kept
import Segmentation.Proofs.Storage.Layout

/-!
# The example segments

The text that a new configuration starts with is not one that the program prints: it has comments, and its
segments and rules have no identifiers.

* `Json.eq_toValue_of_gives`: values are compared with a document by computation.
* `Console.Example.keeps_of_gives`: so it is seen that a document is kept.
* `ofYaml_exampleSegments`: what the text holds.
* `readSegments_exampleSegments`: the segments that it gives, with identifiers that are drawn.
* `kept_segments`: they are in order from then on.
-/

namespace Segmentation

/-! ## Values and documents -/

namespace Json

mutual

/-- The value is that of the document, which must not hold floating-point numbers. -/
def gives : Json → Value → Bool
  | .null, .null => true
  | .bool b, .bool c => b = c
  | .int n, .int m => n = m
  | .text s, .text t => s = t
  | .array js, .collection .list vs => allGive js vs
  | .object ms, .mapping es => membersGive ms es
  | _, _ => false

/-- The values are those of the documents. -/
def allGive : List Json → List Value → Bool
  | [], [] => true
  | j :: js, v :: vs => gives j v && allGive js vs
  | _, _ => false

/-- The entries are those of the members. -/
def membersGive : List (String × Json) → List (Value × Value) → Bool
  | [], [] => true
  | (k, j) :: ms, (.text l, v) :: es => k = l && gives j v && membersGive ms es
  | _, _ => false

end

mutual

theorem eq_toValue_of_gives (j : Json) (v : Value) (h : gives j v = true) : v = j.toValue := by
  unfold gives at h
  split at h
  · rfl
  · rw [of_decide_eq_true h, toValue]
  · rw [of_decide_eq_true h, toValue]
  · rw [of_decide_eq_true h, toValue]
  · rw [eq_toValues_of_allGive _ _ h, toValue]
  · rw [eq_toEntries_of_membersGive _ _ h, toValue]
  · cases h

theorem eq_toValues_of_allGive (js : List Json) (vs : List Value) (h : allGive js vs = true) :
    vs = toValues js := by
  unfold allGive at h
  split at h
  · rfl
  · rw [Bool.and_eq_true] at h
    rw [eq_toValue_of_gives _ _ h.1, eq_toValues_of_allGive _ _ h.2, toValues]
  · cases h

theorem eq_toEntries_of_membersGive (ms : List (String × Json)) (es : List (Value × Value))
    (h : membersGive ms es = true) : es = toEntries ms := by
  unfold membersGive at h
  split at h
  · rfl
  · rw [Bool.and_eq_true, Bool.and_eq_true] at h
    rw [of_decide_eq_true h.1.1, eq_toValue_of_gives _ _ h.1.2, eq_toEntries_of_membersGive _ _ h.2, toEntries]
  · cases h

end

end Json

namespace Console.Example

open IdSupply Storage

/-! ## The document -/

/-- A condition of the example. -/
def condition (field operator : String) (value : Json) : Json :=
  .object [("field", .text field), ("operator", .text operator), ("value", value)]

/-- A group of the example without sub-groups. -/
def group (c : Connective) (conditions : List Json) : Json :=
  .object [("operator", .text c.name), ("conditions", .array conditions)]

/-- The rules of the first segment. -/
def customerRules : Json :=
  .object [("operator", .text "AND"),
    ("conditions", .array [condition "lifecycle_stage" "equals" (.text "customer")]),
    ("groups", .array [group .or [condition "tags" "contains" (.text "vip"),
      condition "tags" "contains" (.text "premium")]])]

/-- The rules of the second segment. -/
def leadRules : Json :=
  group .and [condition "lifecycle_stage" "equals" (.text "lead"),
    condition "updated_at" "in_last_days" (.int 30)]

/-- The first segment. -/
def customersItem : Json :=
  .object [("name", .text "VIP customers"), ("description", .text "Customers tagged vip or premium"),
    ("type", .text "dynamic"), ("rules", customerRules)]

/-- The second segment. -/
def leadsItem : Json :=
  .object [("name", .text "Recently active leads"), ("description", .text "Leads updated in the last 30 days"),
    ("type", .text "dynamic"), ("rules", leadRules)]

/-- The third segment. -/
def testersItem : Json :=
  .object [("name", .text "Beta testers"), ("description", .text "Hand-picked contacts"),
    ("type", .text "static"), ("members", .array [.text "ana@example.com"])]

/-- What the text holds. -/
def document : Json :=
  .object [("segments", .array [customersItem, leadsItem, testersItem])]

/-- The value of a document in YAML that is given by its characters. -/
def valueOf (cs : List Char) : Except Yaml.Fault Value := do
  let tokens ← Yaml.Token.scan cs
  let (n, _) ← (Yaml.Node.document (3 * tokens.length + 3)).run ⟨tokens, [], []⟩
  (n.value 0 (n.depth + 1)).mapError (·.2)

theorem ofText_eq_valueOf (s : String) : Yaml.ofText s = valueOf s.toList := by
  unfold Yaml.ofText Yaml.Node.ofText valueOf
  simp only [bind_assoc, pure_bind]

theorem ofText_print_eq_valueOf (j : Json) :
    Yaml.ofText (Yaml.Emitter.print j) = valueOf (Yaml.Emitter.chars j) := by
  rw [ofText_eq_valueOf, Yaml.Emitter.print, String.toList_ofList]

/-- Data is kept if it is read again from its characters. -/
theorem keeps_of_gives {j : Json} (htexts : Yaml.Emitter.hasTexts j = true)
    (h : (valueOf (Yaml.Emitter.chars j)).toOption.any j.gives = true) : Yaml.Keeps j := by
  refine ⟨_, if_pos htexts, ?_⟩
  rw [ofText_print_eq_valueOf]
  generalize valueOf (Yaml.Emitter.chars j) = read at h ⊢
  cases read with
  | error fault => cases h
  | ok v => rw [Json.eq_toValue_of_gives _ v h]

set_option maxRecDepth 20000 in
/-- The characters are named as a list before they are read: it is the list that is computed with. -/
theorem gives_document : ∃ cs, exampleSegments.toList = cs ∧
    (valueOf cs).toOption.any document.gives = true := by
  unfold exampleSegments
  exact ⟨_, String.toList_ofList, by decide +kernel⟩

theorem ofYaml_exampleSegments : ofYaml exampleSegments = .ok document.toValue := by
  obtain ⟨cs, hcs, h⟩ := gives_document
  rw [ofYaml, ofText_eq_valueOf, hcs]
  cases hv : valueOf cs with
  | error fault => simp [hv, Except.toOption] at h
  | ok v =>
    rw [hv] at h
    rw [Json.eq_toValue_of_gives _ _ h]
    rfl

/-! ## Reading data without identifiers -/

section

variable {es : List (Value × Value)} {c : Connective} {room inside : Option Nat} {n m k : Nat}

theorem run_bind_eq {σ α β : Type} {x : StateM σ α} {f : α → StateM σ β} {s s' : σ} {a : α}
    (h : x.run s = (a, s')) : (x >>= f).run s = (f a).run s' := by
  rw [StateT.run_bind]
  change (f (x.run s).1).run (x.run s).2 = _
  rw [h]

theorem run_checkId (h : Value.valueUnder? es "id" = none) : (checkId es).run ⟨n⟩ = (.ok (text n), ⟨n + 1⟩) := by
  rw [checkId, h]
  rfl

theorem connective_of_name (h : Value.valueUnder? es "operator" = some (.text c.name)) :
    Schema.withDefault es "operator" .and Connective.check = .ok c := by
  rw [Schema.withDefault, h]
  dsimp only
  rw [Connective.check_name]
  rfl

/-- The entries of a group end with its sub-groups. -/
theorem run_checkEntries_concat (front : List (Value × Value)) {v : Value} {listed : Checked (List Group)}
    (h : (Group.checkList room v).run ⟨m⟩ = (listed, ⟨k⟩)) :
    (Group.checkEntries room (front ++ [(.text "groups", v)])).run ⟨m⟩ = (some listed, ⟨k⟩) := by
  induction front with
  | nil =>
    have hnone : (Group.checkEntries room []).run ⟨m⟩ = (none, ⟨m⟩) := rfl
    rw [List.nil_append, Group.checkEntries.eq_def]
    dsimp only
    rw [run_bind_eq hnone]
    dsimp only
    rw [if_pos rfl, run_bind_eq h]
    rfl
  | cons e front ih =>
    rw [List.cons_append, Group.checkEntries.eq_def]
    dsimp only
    rw [run_bind_eq ih]
    rfl

theorem run_checkGroup {v : Value} {conditions : List Condition} {listed : Option (Checked (List Group))}
    {groups : List Group} (hroom : Group.roomInside? room = some inside) (hid : Value.valueUnder? es "id" = none)
    (hconnective : Value.valueUnder? es "operator" = some (.text c.name))
    (hfound : Value.valueUnder? es "conditions" = some v)
    (hconditions : (Condition.checkList v).run ⟨n + 1⟩ = (.ok conditions, ⟨m⟩))
    (hlisted : (Group.checkEntries inside es).run ⟨m⟩ = (listed, ⟨k⟩))
    (hgroups : listed.getD (.ok []) = .ok groups) :
    (Group.check room (.mapping es)).run ⟨n⟩ = (.ok ⟨text n, c, conditions, groups⟩, ⟨k⟩) := by
  rw [Group.check, hroom]
  dsimp only
  rw [run_bind_eq (run_checkId hid), hfound, run_bind_eq hconditions, run_bind_eq hlisted,
    connective_of_name hconnective, hgroups]
  rfl

/-- A dynamic segment without identifier, count and times. -/
theorem run_checkSegment {name description : String} {rules : List (Value × Value)} {g : Group}
    {now : Calendar.DateTime} (hname : name ≠ "")
    (hrules : (Group.checkData (.mapping rules)).run ⟨n + 1⟩ = (.ok g, ⟨k⟩)) :
    (Segment.check now (.mapping [(.text "name", .text name), (.text "description", .text description),
      (.text "type", .text "dynamic"), (.text "rules", .mapping rules)])).run ⟨n⟩ =
        (.ok ⟨text n, name, description, .dynamic (some g), 0, now, now⟩, ⟨k⟩) := by
  have hfound : (Segment.checkRules [(.text "name", .text name), (.text "description", .text description),
      (.text "type", .text "dynamic"), (.text "rules", .mapping rules)]).run ⟨n + 1⟩ = (.ok (some g), ⟨k⟩) := by
    change (Group.checkData (.mapping rules) >>= fun g => pure (Checked.under "rules" (g.map some))).run ⟨n + 1⟩ = _
    rw [run_bind_eq hrules]
    rfl
  have hchecked : Schema.required [(.text "name", .text name), (.text "description", .text description),
      (.text "type", .text "dynamic"), (.text "rules", .mapping rules)] "name" Schema.nonEmptyText = .ok name := by
    change Checked.under "name" (if name = "" then .misfit .emptyText else .ok name) = _
    rw [if_neg hname]
    rfl
  rw [Segment.check, Schema.entries]
  dsimp only
  rw [run_bind_eq (run_checkId rfl), run_bind_eq hfound, hchecked]
  rfl

theorem run_checkSegments_cons {v : Value} {vs : List Value} {t : Segment} {ts : List Segment}
    {now : Calendar.DateTime} {supply supply₁ supply₂ : IdSupply}
    (h : (Segment.check now v).run supply = (.ok t, supply₁))
    (hrest : (checkSegments now vs).run supply₁ = (.ok ts, supply₂)) :
    (checkSegments now (v :: vs)).run supply = (.ok (t :: ts), supply₂) := by
  rw [checkSegments, run_bind_eq h]
  dsimp only
  rw [run_bind_eq hrest]
  rfl

end

/-! ## The segments -/

/-- The first segment of the example, with identifiers from the number `n` on. -/
def customers (now : Calendar.DateTime) (n : Nat) : Segment :=
  ⟨text n, "VIP customers", "Customers tagged vip or premium", .dynamic (some ⟨text (n + 1), .and,
      [⟨text (n + 2), "lifecycle_stage", .known .equals, .text "customer", .null⟩],
      [⟨text (n + 3), .or, [⟨text (n + 4), "tags", .known .contains, .text "vip", .null⟩,
        ⟨text (n + 5), "tags", .known .contains, .text "premium", .null⟩], []⟩]⟩), 0, now, now⟩

/-- The second segment. -/
def leads (now : Calendar.DateTime) (n : Nat) : Segment :=
  ⟨text n, "Recently active leads", "Leads updated in the last 30 days", .dynamic (some ⟨text (n + 1), .and,
      [⟨text (n + 2), "lifecycle_stage", .known .equals, .text "lead", .null⟩,
        ⟨text (n + 3), "updated_at", .known .inLastDays, .int 30, .null⟩], []⟩), 0, now, now⟩

/-- The third segment. -/
def testers (now : Calendar.DateTime) (n : Nat) : Segment :=
  ⟨text n, "Beta testers", "Hand-picked contacts", .static ["ana@example.com"], 0, now, now⟩

theorem run_leadRules (n : Nat) : (Group.checkData leadRules.toValue).run ⟨n⟩ = (.ok ⟨text n, .and,
      [⟨text (n + 1), "lifecycle_stage", .known .equals, .text "lead", .null⟩,
        ⟨text (n + 2), "updated_at", .known .inLastDays, .int 30, .null⟩], []⟩, ⟨n + 3⟩) :=
  run_checkGroup rfl rfl rfl rfl rfl rfl rfl

theorem run_customerRules (n : Nat) : (Group.checkData customerRules.toValue).run ⟨n⟩ = (.ok ⟨text n, .and,
      [⟨text (n + 1), "lifecycle_stage", .known .equals, .text "customer", .null⟩],
      [⟨text (n + 2), .or, [⟨text (n + 3), "tags", .known .contains, .text "vip", .null⟩,
        ⟨text (n + 4), "tags", .known .contains, .text "premium", .null⟩], []⟩]⟩, ⟨n + 5⟩) := by
  have hsub : (Group.check (some 254) (group .or [condition "tags" "contains" (.text "vip"),
      condition "tags" "contains" (.text "premium")]).toValue).run ⟨n + 2⟩ =
      (.ok ⟨text (n + 2), .or, [⟨text (n + 3), "tags", .known .contains, .text "vip", .null⟩,
        ⟨text (n + 4), "tags", .known .contains, .text "premium", .null⟩], []⟩, ⟨n + 5⟩) :=
    run_checkGroup rfl rfl rfl rfl rfl rfl rfl
  have hlist : (Group.checkList (some 254) (.collection .list [(group .or [condition "tags" "contains" (.text "vip"),
      condition "tags" "contains" (.text "premium")]).toValue])).run ⟨n + 2⟩ =
      (.ok [⟨text (n + 2), .or, [⟨text (n + 3), "tags", .known .contains, .text "vip", .null⟩,
        ⟨text (n + 4), "tags", .known .contains, .text "premium", .null⟩], []⟩], ⟨n + 5⟩) := by
    rw [Group.checkList, Group.checkAll]
    exact run_bind_eq hsub
  have hentries := run_checkEntries_concat [(.text "operator", .text "AND"), (.text "conditions",
    .collection .list [(condition "lifecycle_stage" "equals" (.text "customer")).toValue])] hlist
  exact run_checkGroup rfl rfl rfl rfl rfl hentries rfl

theorem run_customers (now : Calendar.DateTime) (n : Nat) :
    (Segment.check now customersItem.toValue).run ⟨n⟩ = (.ok (customers now n), ⟨n + 6⟩) :=
  run_checkSegment (by decide) (run_customerRules (n + 1))

theorem run_leads (now : Calendar.DateTime) (n : Nat) :
    (Segment.check now leadsItem.toValue).run ⟨n⟩ = (.ok (leads now n), ⟨n + 4⟩) :=
  run_checkSegment (by decide) (run_leadRules (n + 1))

theorem run_testers (now : Calendar.DateTime) (n : Nat) :
    (Segment.check now testersItem.toValue).run ⟨n⟩ = (.ok (testers now n), ⟨n + 1⟩) := rfl

theorem run_items (now : Calendar.DateTime) (n : Nat) :
    (checkSegments now [customersItem.toValue, leadsItem.toValue, testersItem.toValue]).run ⟨n⟩ =
      (.ok [customers now n, leads now (n + 6), testers now (n + 10)], ⟨n + 11⟩) :=
  run_checkSegments_cons (run_customers now n) <| run_checkSegments_cons (run_leads now (n + 6)) <|
    run_checkSegments_cons (run_testers now (n + 10)) rfl

/-- The example gives its segments, with identifiers that are drawn. -/
theorem readSegments_exampleSegments (now : Calendar.DateTime) (n : Nat) :
    (readSegments now (.file exampleSegments)).run ⟨n⟩ =
      (.ok [customers now n, leads now (n + 6), testers now (n + 10)], ⟨n + 11⟩) := by
  have hitems : segmentItems document.toValue =
      .ok [customersItem.toValue, leadsItem.toValue, testersItem.toValue] := rfl
  rw [readSegments_of_ofYaml ofYaml_exampleSegments, segmentsOf, hitems]
  exact run_bind_eq (run_items now n)

/-- No name of the example is an identifier: it is too short. -/
theorem ne_text_of_length {name : String} (h : name.length ≤ 30) (k : Nat) : name ≠ text k := by
  rintro rfl
  exact absurd h (Nat.not_le.2 (lt_length_text k))

/-- A condition of the example is settled, and writers keep it. -/
theorem condition_known (n : Nat) {field : String} (o : Operator) {value : Operand}
    (hfield : Text.HasNoNextLine field) (htext : value.HasText) (hfinite : value.IsFinite)
    (hplain : value.EachText Text.HasNoNextLine) :
    let c : Condition := ⟨text n, field, .known o, value, .null⟩
    c.Settled ∧ c.EachText Text.HasNoNextLine ∧ c.IntegersHave Integer.HasText ∧ c.IsFinite :=
  ⟨OperatorName.ofText_name o, ⟨Text.hasNoNextLine_id n, hfield, Operator.hasNoNextLine_name o, hplain, trivial⟩,
    ⟨htext, trivial⟩, hfinite, trivial⟩

/-- A segment with such conditions, and with nothing counted, can be stored. -/
theorem keepable_of_conditions {s : Segment} {g : Group} {n : Nat} (hid : s.id = text n) (hname : s.name ≠ "")
    (htexts : Text.HasNoNextLine s.name ∧ Text.HasNoNextLine s.description) (hrules : s.rules = some g)
    (hids : ∀ node ∈ g.preorder, ∃ k, node.2.id = text k) (hdepth : g.depth ≤ 2)
    (hg : ∀ c ∈ g.allConditions, c.Settled ∧ c.EachText Text.HasNoNextLine ∧ c.IntegersHave Integer.HasText ∧
      c.IsFinite)
    (hcount : s.contactCount = 0) (hcreated : s.createdAt.IsToMinute) (hupdated : s.updatedAt.IsToMinute) :
    s.Keepable := by
  have hmembers : ∀ m ∈ s.members, Text.HasNoNextLine m := fun m hm => by
    rw [Segment.members, Segment.membership_eq_dynamic (Segment.type_eq_dynamic hrules)] at hm
    exact absurd hm List.not_mem_nil
  have hevery {p : Group → Prop} (hp : p g) : ∀ g ∈ s.rules, p g := fun g' hg' => by
    rw [hrules] at hg'
    cases hg'
    exact hp
  have hgroups : ∀ node ∈ g.preorder, Text.HasNoNextLine node.2.id := fun node hnode => by
    obtain ⟨k, hk⟩ := hids node hnode
    exact hk ▸ Text.hasNoNextLine_id k
  refine ⟨⟨hname, hevery fun c hc => (hg c hc).1, hevery ⟨?_, ?_⟩, hcreated, hupdated⟩,
    hid ▸ Text.hasNoNextLine_id n, htexts.1, htexts.2, hmembers,
    hevery ⟨hgroups, fun c hc => (hg c hc).2.1⟩, hevery fun c hc => (hg c hc).2.2, hevery hdepth,
    hcount ▸ Integer.hasText_iff.2 (by decide)⟩
  · exact hdepth.trans (by decide)
  · exact hdepth.trans (by decide)

variable {now : Calendar.DateTime}

theorem keepable_customers (hnow : now.IsToMinute) (n : Nat) : (customers now n).Keepable := by
  have htexts : Text.HasNoNextLine "VIP customers" ∧ Text.HasNoNextLine "Customers tagged vip or premium" := by
    decide
  refine keepable_of_conditions rfl (by simp [customers]) htexts rfl (fun node hnode => ?_)
    (by simp [Group.depth, Group.depths]) (fun c hc => ?_) rfl hnow hnow
  · change node ∈ [(_ : List Nat × Group), _] at hnode
    simp only [List.mem_cons, List.not_mem_nil, or_false] at hnode
    rcases hnode with rfl | rfl <;> exact ⟨_, rfl⟩
  · change c ∈ [(_ : Condition), _, _] at hc
    simp only [List.mem_cons, List.not_mem_nil, or_false] at hc
    have hvalues : ∀ s ∈ ["customer", "vip", "premium"], Text.HasNoNextLine s := by decide
    rcases hc with rfl | rfl | rfl <;>
      exact condition_known _ _ (by decide) trivial trivial (hvalues _ (by simp))

theorem keepable_leads (hnow : now.IsToMinute) (n : Nat) : (leads now n).Keepable := by
  have hthirty : Integer.HasText 30 := Integer.hasText_iff.2 (by decide)
  have htexts : Text.HasNoNextLine "Recently active leads" ∧
      Text.HasNoNextLine "Leads updated in the last 30 days" := by decide
  refine keepable_of_conditions rfl (by simp [leads]) htexts rfl (fun node hnode => ?_)
    (by simp [Group.depth, Group.depths]) (fun c hc => ?_) rfl hnow hnow
  · obtain rfl := List.mem_singleton.1 hnode
    exact ⟨_, rfl⟩
  · change c ∈ [(_ : Condition), _] at hc
    simp only [List.mem_cons, List.not_mem_nil, or_false] at hc
    rcases hc with rfl | rfl
    · have hlead : Text.HasNoNextLine "lead" := by decide
      exact condition_known _ _ (by decide) trivial trivial hlead
    · exact condition_known _ _ (by decide) hthirty trivial trivial

theorem keepable_testers (hnow : now.IsToMinute) (n : Nat) : (testers now n).Keepable := by
  have hmembers : ∀ m ∈ (testers now n).members, Text.HasNoNextLine m := by
    rw [Segment.members, testers, List.forall_mem_singleton]
    decide
  have htexts : Text.HasNoNextLine "Beta testers" ∧ Text.HasNoNextLine "Hand-picked contacts" := by decide
  have hzero : Integer.HasText 0 := Integer.hasText_iff.2 (by decide)
  have hevery {p : Group → Prop} : ∀ g ∈ (testers now n).rules, p g := fun g hg => absurd hg (Option.not_mem_none g)
  exact ⟨⟨by simp [testers], hevery, hevery, hnow, hnow⟩, Text.hasNoNextLine_id n, htexts.1, htexts.2, hmembers,
    hevery, hevery, hevery, hzero⟩

theorem name_ne_text (now : Calendar.DateTime) (n : Nat) :
    ∀ s ∈ [customers now n, leads now (n + 6), testers now (n + 10)], ∀ k, s.name ≠ text k := by
  simp only [List.forall_mem_cons, customers, leads, testers]
  exact ⟨ne_text_of_length (by decide), ne_text_of_length (by decide), ne_text_of_length (by decide), nofun⟩

theorem id_eq_text (now : Calendar.DateTime) (n : Nat) :
    ∀ s ∈ [customers now n, leads now (n + 6), testers now (n + 10)], ∃ k < n + 11, s.id = text k := by
  simp only [List.forall_mem_cons]
  exact ⟨⟨n, by omega, rfl⟩, ⟨n + 6, by omega, rfl⟩, ⟨n + 10, by omega, rfl⟩, nofun⟩

theorem distinct_segments (now : Calendar.DateTime) (n : Nat) :
    Segment.Distinct [customers now n, leads now (n + 6), testers now (n + 10)] where
  ids := by simp [customers, leads, testers, text_injective.eq_iff]
  names := by
    change [Text.lower "VIP customers", Text.lower "Recently active leads", Text.lower "Beta testers"].Nodup
    decide +kernel
  crossed := by
    intro s hs t ht heq
    obtain ⟨k, -, hid⟩ := id_eq_text now n t ht
    exact absurd (heq.trans hid) (name_ne_text now n s hs k)

/-- The segments of the example are kept in order from the moment they are loaded. -/
theorem kept_segments (hnow : now.IsToMinute) (n : Nat) :
    Segment.Kept ⟨n + 11⟩ 1 [customers now n, leads now (n + 6), testers now (n + 10)] where
  distinct := distinct_segments now n
  keepable := by
    simp only [List.forall_mem_cons]
    exact ⟨keepable_customers hnow n, keepable_leads hnow _, keepable_testers hnow _, nofun⟩
  drawn := id_eq_text now n
  named s hs k _ := name_ne_text now n s hs k
  members := by simp [Segment.members, customers, leads, testers]

end Console.Example

end Segmentation
