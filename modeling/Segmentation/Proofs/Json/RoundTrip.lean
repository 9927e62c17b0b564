import Segmentation.Json.Reader
import Segmentation.Proofs.Json.Scan

/-!
# Reading a printed JSON document

* `depth`, `nesting_tokens`: how deep a document is nested, which its tokens tell.
* `Readable`, `readsBack_of_readable`: the documents whose tokens are read as the document.
* `read_print`: their text is read as the document too, if it is not nested too deep.
-/

namespace Segmentation.Json

open Token

/-! ## Nesting -/

mutual

/-- The greatest number of arrays and objects that lie in each other; empty ones do not count. -/
def depth : Json → Nat
  | array [] | object [] => 0
  | array (j :: js) => 1 + max (depth j) (itemsDepth js)
  | object ((_, j) :: ms) => 1 + max (depth j) (membersDepth ms)
  | _ => 0

/-- The greatest depth of some items. -/
def itemsDepth : List Json → Nat
  | [] => 0
  | j :: js => max (depth j) (itemsDepth js)

/-- The greatest depth of the values of some members. -/
def membersDepth : List (String × Json) → Nat
  | [] => 0
  | (_, j) :: ms => max (depth j) (membersDepth ms)

end

theorem depth_array_le {js : List Json} : (array js).depth ≤ 1 + itemsDepth js := by
  cases js <;> simp [depth, itemsDepth]

theorem itemsDepth_le_iff {js : List Json} {n : Nat} : itemsDepth js ≤ n ↔ ∀ j ∈ js, j.depth ≤ n := by
  induction js with
  | nil => simp [itemsDepth]
  | cons j js ih => rw [itemsDepth, Nat.max_le, ih, List.forall_mem_cons]

/-- The first token of a document closes nothing. -/
theorem tokens_head (dialect : Dialect) (j : Json) :
    ∃ t ts, tokens dialect j = t :: ts ∧ t ≠ .endArray := by
  cases j with
  | int n => exact ⟨_, [], rfl, by split_ifs <;> simp⟩
  | float x => exact ⟨_, [], rfl, by split_ifs <;> simp⟩
  | null | bool b | text s => exact ⟨_, [], rfl, by simp⟩
  | array items => cases items <;> exact ⟨_, _, rfl, by simp⟩
  | object members => cases members <;> exact ⟨_, _, rfl, by simp⟩

theorem le_nesting (ts : List Token) : ∀ opened, opened ≤ nesting opened ts := by
  intro opened
  fun_induction nesting opened ts with
  | case4 opened rest _ ih => omega
  | case5 opened rest _ ih => omega
  | _ => simp_all

theorem nesting_beginArray {t : Token} {ts : List Token} (ht : t ≠ .endArray) (opened : Nat) :
    nesting opened (.beginArray :: t :: ts) = nesting (opened + 1) (t :: ts) := by
  rw [nesting]
  intro rest h
  exact ht (List.cons.inj h).1

variable {dialect : Dialect}

mutual

/-- The tokens of a document tell how deep it is nested. -/
theorem nesting_tokens : (j : Json) → (opened : Nat) → (rest : List Token) →
    nesting opened (tokens dialect j ++ rest) = max (opened + j.depth) (nesting opened rest)
  | null, opened, rest | bool _, opened, rest | text _, opened, rest | array [], opened, rest
  | object [], opened, rest => by simp [tokens, nesting, depth, le_nesting]
  | int n, opened, rest => by
    have := le_nesting rest opened
    rw [tokens]
    split_ifs <;> simp [nesting, depth, this]
  | float x, opened, rest => by
    have := le_nesting rest opened
    rw [tokens]
    split_ifs <;> simp [nesting, depth, this]
  | array (j :: js), opened, rest => by
    obtain ⟨t, ts, ht, hne⟩ := tokens_head dialect j
    have hfirst := nesting_tokens j (opened + 1) (itemTokens dialect js ++ .endArray :: rest)
    have hitems := nesting_itemTokens js (opened + 1) (.endArray :: rest)
    have hrest := le_nesting rest opened
    have hclose : nesting (opened + 1) (.endArray :: rest) = max (opened + 1) (nesting opened rest) := rfl
    have hopen := @nesting_beginArray _ (ts ++ (itemTokens dialect js ++ .endArray :: rest)) hne opened
    simp only [tokens, List.cons_append, List.append_assoc, List.nil_append, depth]
    rw [ht] at hfirst ⊢
    simp only [List.cons_append] at hfirst ⊢
    omega
  | object ((k, j) :: ms), opened, rest => by
    have hfirst := nesting_tokens j (opened + 1) (memberTokens dialect ms ++ .endObject :: rest)
    have hmembers := nesting_memberTokens ms (opened + 1) (.endObject :: rest)
    have hrest := le_nesting rest opened
    have hclose : nesting (opened + 1) (.endObject :: rest) = max (opened + 1) (nesting opened rest) := rfl
    have hopen (ts : List Token) : nesting opened (.beginObject :: .text k :: .colon :: ts) =
      nesting (opened + 1) ts := rfl
    simp only [tokens, List.cons_append, List.append_assoc, List.nil_append, depth, hopen]
    omega

theorem nesting_itemTokens : (js : List Json) → (opened : Nat) → (rest : List Token) →
    nesting opened (itemTokens dialect js ++ rest) = max (opened + itemsDepth js) (nesting opened rest)
  | [], opened, rest => by simp [itemTokens, itemsDepth, le_nesting]
  | j :: js, opened, rest => by
    have hfirst := nesting_tokens j opened (itemTokens dialect js ++ rest)
    have hitems := nesting_itemTokens js opened rest
    have hcomma (ts : List Token) : nesting opened (.comma :: ts) = nesting opened ts := rfl
    simp only [itemTokens, List.cons_append, List.append_assoc, itemsDepth, hcomma]
    omega

theorem nesting_memberTokens : (ms : List (String × Json)) → (opened : Nat) → (rest : List Token) →
    nesting opened (memberTokens dialect ms ++ rest) = max (opened + membersDepth ms) (nesting opened rest)
  | [], opened, rest => by simp [memberTokens, membersDepth, le_nesting]
  | (k, j) :: ms, opened, rest => by
    have hfirst := nesting_tokens j opened (memberTokens dialect ms ++ rest)
    have hmembers := nesting_memberTokens ms opened rest
    have hcomma (ts : List Token) : nesting opened (.comma :: .text k :: .colon :: ts) = nesting opened ts := rfl
    simp only [memberTokens, List.cons_append, List.append_assoc, membersDepth, hcomma]
    omega

end

theorem nesting_zero_tokens (j : Json) : nesting 0 (tokens dialect j) = j.depth := by
  simpa [nesting] using @nesting_tokens dialect j 0 []

/-! ## Documents that are read back -/

mutual

/-- The document can be read back from its text: its numbers have digits that are not too many, and no object
has two members of one name. -/
def Readable (dialect : Dialect) : Json → Prop
  | int n => dialect.Admits n
  | float x => x.isFinite = true
  | array items => AllReadable dialect items
  | object members => (members.map (·.1)).Nodup ∧ MembersReadable dialect members
  | _ => True

/-- All items can be read back. -/
def AllReadable (dialect : Dialect) : List Json → Prop
  | [] => True
  | j :: js => Readable dialect j ∧ AllReadable dialect js

/-- The values of all members can be read back. -/
def MembersReadable (dialect : Dialect) : List (String × Json) → Prop
  | [] => True
  | (_, j) :: ms => Readable dialect j ∧ MembersReadable dialect ms

end

/-! ## Tokens of one bracket -/

theorem setMember_append {before : List (String × Json)} {key : String} (j : Json)
    (hkey : key ∉ before.map (·.1)) : setMember before key j = before ++ [(key, j)] := by
  unfold setMember
  rw [if_neg]
  intro hany
  obtain ⟨m, hm, hmkey⟩ := List.any_eq_true.1 hany
  exact hkey (List.mem_map.2 ⟨m, hm, by simpa using hmkey⟩)

theorem key_notMem_of_nodup {before ms : List (String × Json)} {k : String} {j : Json}
    (h : ((before ++ (k, j) :: ms).map (·.1)).Nodup) : k ∉ before.map (·.1) := by
  rw [List.map_append, List.nodup_append] at h
  intro hk
  exact h.2.2 k hk k (by simp) rfl

theorem valueFrom_beginArray {fuel : Nat} {t : Token} {ts rest : List Token} {items : List Json}
    (ht : t ≠ .endArray) (hitems : itemsFrom fuel (t :: ts) = .ok (items, rest)) :
    valueFrom (fuel + 1) (.beginArray :: t :: ts) = .ok (array items, rest) := by
  rw [valueFrom, hitems]
  · rfl
  · intro rest h
    exact ht (List.cons.inj h).1

theorem valueFrom_beginObject {fuel : Nat} {k : String} {ts rest : List Token}
    {members : List (String × Json)}
    (hmembers : membersFrom fuel [] (.text k :: ts) = .ok (members, rest)) :
    valueFrom (fuel + 1) (.beginObject :: .text k :: ts) = .ok (object members, rest) := by
  rw [valueFrom, hmembers]
  · rfl
  · intro rest h
    cases (List.cons.inj h).1

/-- With enough fuel the tokens of the document are read as the document. -/
def ReadsBack (dialect : Dialect) (j : Json) : Prop :=
  ∀ fuel rest, (tokens dialect j).length ≤ fuel → valueFrom fuel (tokens dialect j ++ rest) = .ok (j, rest)

theorem itemsFrom_last {j : Json} (hj : ReadsBack dialect j) {fuel : Nat} (rest : List Token)
    (hfuel : (tokens dialect j).length ≤ fuel) :
    itemsFrom (fuel + 1) (tokens dialect j ++ .endArray :: rest) = .ok ([j], rest) := by
  rw [itemsFrom, hj fuel _ hfuel]
  rfl

theorem itemsFrom_comma {j : Json} (hj : ReadsBack dialect j) {fuel : Nat} {ts rest : List Token}
    {js : List Json} (hfuel : (tokens dialect j).length ≤ fuel) (hjs : itemsFrom fuel ts = .ok (js, rest)) :
    itemsFrom (fuel + 1) (tokens dialect j ++ .comma :: ts) = .ok (j :: js, rest) := by
  rw [itemsFrom, hj fuel _ hfuel]
  change (itemsFrom fuel ts).bind _ = _
  rw [hjs]
  rfl

theorem membersFrom_last {j : Json} (hj : ReadsBack dialect j) {fuel : Nat} {k : String} (rest : List Token)
    {before : List (String × Json)} (hk : k ∉ before.map (·.1)) (hfuel : (tokens dialect j).length ≤ fuel) :
    membersFrom (fuel + 1) before (.text k :: .colon :: (tokens dialect j ++ .endObject :: rest)) =
      .ok (before ++ [(k, j)], rest) := by
  rw [membersFrom, hj fuel _ hfuel]
  change Except.ok (setMember before k j, rest) = _
  rw [setMember_append j hk]

theorem membersFrom_comma {j : Json} (hj : ReadsBack dialect j) {fuel : Nat} {k : String} {ts rest : List Token}
    {before members : List (String × Json)} (hk : k ∉ before.map (·.1))
    (hfuel : (tokens dialect j).length ≤ fuel)
    (hms : membersFrom fuel (before ++ [(k, j)]) ts = .ok (members, rest)) :
    membersFrom (fuel + 1) before (.text k :: .colon :: (tokens dialect j ++ .comma :: ts)) =
      .ok (members, rest) := by
  rw [membersFrom, hj fuel _ hfuel]
  change membersFrom fuel (setMember before k j) ts = _
  rw [setMember_append j hk, hms]

/-! ## Tokens of a document -/

mutual

/-- The tokens of a readable document are read as the document. -/
theorem readsBack_of_readable : (j : Json) → Readable dialect j → ReadsBack dialect j
  | null, _, fuel + 1, rest, _ => rfl
  | bool b, _, fuel + 1, rest, _ => rfl
  | int n, hj, fuel + 1, rest, _ => by
    have hn : dialect.Admits n := hj
    rw [tokens, if_pos hn]
    rfl
  | float x, hj, fuel + 1, rest, _ => by
    have hx : x.isFinite = true := hj
    rw [tokens, if_pos hx]
    rfl
  | text s, _, fuel + 1, rest, _ => rfl
  | array [], _, fuel + 1, rest, _ => rfl
  | array (j :: js), hj, fuel + 1, rest, hfuel => by
    have hlen : (tokens dialect j).length + (itemTokens dialect js).length + 1 ≤ fuel := by
      simp only [tokens, List.length_cons, List.length_append, List.length_nil] at hfuel
      omega
    have hitems := itemsFrom_tokens js hj.2 (readsBack_of_readable j hj.1) fuel rest hlen
    obtain ⟨t, ts, ht, hne⟩ := tokens_head dialect j
    rw [ht, List.cons_append] at hitems
    simpa [tokens, ht] using valueFrom_beginArray hne hitems
  | object [], _, fuel + 1, rest, _ => rfl
  | object ((k, j) :: ms), hj, fuel + 1, rest, hfuel => by
    have hlen : (tokens dialect j).length + (memberTokens dialect ms).length + 1 ≤ fuel := by
      simp only [tokens, List.length_cons, List.length_append, List.length_nil] at hfuel
      omega
    have hmembers := membersFrom_tokens ms hj.2.2 (readsBack_of_readable j hj.2.1)
      (show (([] ++ (k, j) :: ms : List (String × Json)).map (·.1)).Nodup from hj.1) fuel rest hlen
    simpa [tokens] using valueFrom_beginObject hmembers

/-- The tokens of the items of an array are read as the items. -/
theorem itemsFrom_tokens : (js : List Json) → AllReadable dialect js → {j : Json} → ReadsBack dialect j →
    (fuel : Nat) → (rest : List Token) → (tokens dialect j).length + (itemTokens dialect js).length + 1 ≤ fuel →
      itemsFrom fuel (tokens dialect j ++ (itemTokens dialect js ++ .endArray :: rest)) = .ok (j :: js, rest)
  | [], _, j, hj, fuel + 1, rest, hfuel => itemsFrom_last hj rest (by omega)
  | j' :: js, hjs, j, hj, fuel + 1, rest, hfuel => by
    have hlen : (tokens dialect j').length + (itemTokens dialect js).length + 1 ≤ fuel := by
      simp only [itemTokens, List.length_cons, List.length_append] at hfuel
      omega
    have hitems := itemsFrom_tokens js hjs.2 (readsBack_of_readable j' hjs.1) fuel rest hlen
    have := itemsFrom_comma hj (by omega) hitems
    simpa [itemTokens] using this

/-- The tokens of the members of an object are read as the members. -/
theorem membersFrom_tokens : (ms : List (String × Json)) → MembersReadable dialect ms → {j : Json} →
    ReadsBack dialect j → {k : String} → {before : List (String × Json)} →
    ((before ++ (k, j) :: ms).map (·.1)).Nodup → (fuel : Nat) → (rest : List Token) →
    (tokens dialect j).length + (memberTokens dialect ms).length + 1 ≤ fuel →
      membersFrom fuel before
        (.text k :: .colon :: (tokens dialect j ++ (memberTokens dialect ms ++ .endObject :: rest))) =
      .ok (before ++ (k, j) :: ms, rest)
  | [], _, j, hj, k, before, hnodup, fuel + 1, rest, hfuel =>
    membersFrom_last hj rest (key_notMem_of_nodup hnodup) (by omega)
  | (k', j') :: ms, hms, j, hj, k, before, hnodup, fuel + 1, rest, hfuel => by
    have hlen : (tokens dialect j').length + (memberTokens dialect ms).length + 1 ≤ fuel := by
      simp only [memberTokens, List.length_cons, List.length_append] at hfuel
      omega
    have hnodup' : ((before ++ [(k, j)] ++ (k', j') :: ms).map (·.1)).Nodup := by
      simpa using hnodup
    have hmembers := membersFrom_tokens ms hms.2 (readsBack_of_readable j' hms.1) hnodup' fuel rest hlen
    have := membersFrom_comma hj (key_notMem_of_nodup hnodup) (by omega) hmembers
    simpa [memberTokens] using this

end

theorem isTooDeep_eq_false {ts : List Token} :
    isTooDeep dialect ts = false ↔ ∀ n ∈ dialect.nesting, nesting 0 ts ≤ n := by
  unfold isTooDeep
  cases dialect.nesting <;> simp

/-- A readable document that is not nested too deep is read back from its text, compact or indented. -/
theorem read_print {j : Json} (hj : Readable dialect j) (hdepth : ∀ n ∈ dialect.nesting, j.depth ≤ n)
    (indent : Option Nat) : read dialect (print indent j) = .ok j := by
  have hvalue := readsBack_of_readable j hj ((tokens dialect j).length + 1) [] (by omega)
  rw [List.append_nil] at hvalue
  have hshallow : isTooDeep dialect (tokens dialect j) = false := by
    rwa [isTooDeep_eq_false, nesting_zero_tokens]
  unfold read print readList
  rw [String.toList_ofList, scan_write]
  dsimp only
  rw [hshallow, hvalue]
  rfl

end Segmentation.Json
