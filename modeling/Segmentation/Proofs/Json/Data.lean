import Segmentation.Proofs.Json.RoundTrip
import Segmentation.Proofs.Outcome

/-!
# What JSON text can hold

* `Value.IsJson`, `Value.IsJsonWith`: plain data, and plain data whose integers have a property.
* `Json.Dialect.Takes`: the texts in which a dialect refuses nothing: no number is too long, no half of a character
  stands alone, and brackets lie in each other only so deep.
* `Json.read_eq_ok_iff`: what a dialect reads is what is read without limits, from a text that the dialect takes.
* `Json.isJson_of_read`, `Json.hasText_of_read`: whatever is read from JSON text is plain data, and all integers of
  strict text have a text.
* `Json.read_plain_ne_tooDeep`: plain text is never nested too deep.
* `Json.takes_print_iff`: the printed documents that a dialect takes.
-/

namespace Segmentation

namespace Value

mutual

/-- Plain data as JSON text can hold it, whose integers have the property: mappings have text keys. -/
def IsJsonWith (p : Int → Prop) : Value → Prop
  | null | bool _ | float _ | text _ => True
  | int n => p n
  | collection .list items => AllJson p items
  | mapping entries => EntriesJson p entries
  | _ => False

/-- All values are plain data. -/
def AllJson (p : Int → Prop) : List Value → Prop
  | [] => True
  | v :: vs => IsJsonWith p v ∧ AllJson p vs

/-- All keys are text and all values are plain data. -/
def EntriesJson (p : Int → Prop) : List (Value × Value) → Prop
  | [] => True
  | (k, v) :: es => (∃ s, k = text s) ∧ IsJsonWith p v ∧ EntriesJson p es

end

/-- Plain data as JSON text can hold it. -/
abbrev IsJson (v : Value) : Prop :=
  v.IsJsonWith fun _ => True

variable {p : Int → Prop}

theorem allJson_iff {vs : List Value} : AllJson p vs ↔ ∀ v ∈ vs, v.IsJsonWith p := by
  induction vs with
  | nil => simp [AllJson]
  | cons v vs ih => rw [AllJson, ih, List.forall_mem_cons]

theorem entriesJson_iff {es : List (Value × Value)} :
    EntriesJson p es ↔ ∀ e ∈ es, (∃ s, e.1 = text s) ∧ IsJsonWith p e.2 := by
  induction es with
  | nil => simp [EntriesJson]
  | cons e es ih =>
    obtain ⟨k, v⟩ := e
    rw [EntriesJson, ih, List.forall_mem_cons, and_assoc]

theorem IsJsonWith.valueUnder? {es : List (Value × Value)} (hes : EntriesJson p es) {key : String} {v : Value}
    (h : Value.valueUnder? es key = some v) : v.IsJsonWith p := by
  obtain ⟨e, he, rfl⟩ := Option.map_eq_some_iff.1 h
  rw [List.findRev?_eq_find?_reverse] at he
  exact (entriesJson_iff.1 hes e (List.mem_reverse.1 (List.mem_of_find?_eq_some he))).2

end Value

/-! ## Integers in a text -/

theorem Integer.ofDigits?_lt {cs : List Char} {acc n : Nat} (h : ofDigits? acc cs = some n) :
    n < (acc + 1) * Nat.pow 10 cs.length := by
  induction cs generalizing acc with
  | nil =>
    cases h
    change n < (n + 1) * 1
    omega
  | cons c cs ih =>
    rw [ofDigits?] at h
    by_cases hc : c.isDigit = true
    · rw [if_pos hc] at h
      have hdigit : c.toNat ≤ 57 := (Char.isDigit_iff_toNat.1 hc).2
      calc n < (acc * 10 + (c.toNat - 48) + 1) * Nat.pow 10 cs.length := ih h
        _ ≤ (acc * 10 + 10) * Nat.pow 10 cs.length := Nat.mul_le_mul_right _ (by omega)
        _ = (acc + 1) * 10 * Nat.pow 10 cs.length := by rw [Nat.add_mul acc, Nat.one_mul]
        _ = (acc + 1) * Nat.pow 10 (c :: cs).length := by
          rw [Nat.mul_assoc, Nat.mul_comm 10]
          rfl
    · rw [if_neg hc] at h
      cases h

theorem Integer.natAbs_lt_of_length {cs : List Char} {k : Nat} (hlen : cs.length ≤ k) (negative : Bool) :
    (if negative then -(((ofDigits? 0 cs).getD 0 : Nat) : Int) else ((ofDigits? 0 cs).getD 0 : Nat)).natAbs <
      Nat.pow 10 k := by
  have hlt : (ofDigits? 0 cs).getD 0 < Nat.pow 10 k := by
    cases hn : ofDigits? 0 cs with
    | none => exact Nat.pow_pos (by decide)
    | some n =>
      have hn := ofDigits?_lt hn
      rw [Nat.zero_add, Nat.one_mul] at hn
      exact Nat.lt_of_lt_of_le hn (Nat.pow_le_pow_right (by decide) hlen)
  cases negative with
  | false => rwa [if_neg (by decide), Int.natAbs_natCast]
  | true => rwa [if_pos rfl, Int.natAbs_neg, Int.natAbs_natCast]

namespace Json

/-! ## Texts that a dialect takes -/

/-- The token is no part of a text that is refused. -/
def Token.IsSound (t : Token) : Prop :=
  t ≠ .longNumber ∧ t ≠ .invalid

/-- All tokens are sound. -/
def AllSound (ts : List Token) : Prop :=
  ∀ t ∈ ts, t.IsSound

/-- The dialect refuses no part of the text, and the text is not nested too deep for it. -/
structure Dialect.Takes (dialect : Dialect) (s : String) : Prop where
  sound : AllSound (Token.scan dialect s.toList)
  shallow : ∀ n ∈ dialect.nesting, Token.nesting 0 (Token.scan dialect s.toList) ≤ n

namespace Token

variable {dialect : Dialect}

/-- Text in quotes that a dialect reads is read in the same way without limits. -/
theorem quoted?_free {cs : List Char} {found : List Char × List Char} (h : quoted? dialect cs = some found) :
    quoted? .free cs = some found := by
  fun_induction quoted? dialect cs generalizing found with
  | case2 rest => exact h
  | case4 a b c d n hn x y e f g k rest hpair ih =>
    obtain ⟨inner, hinner, rfl⟩ := Option.map_eq_some_iff.1 h
    simp only [quoted?, hn, hpair, if_true, ih hinner, Option.map_some]
  | case6 a b c d rest n hn hpair hhalf hlone ih =>
    obtain ⟨inner, hinner, rfl⟩ := Option.map_eq_some_iff.1 h
    rw [quoted?, hn]
    dsimp only
    rw [if_neg hpair, if_pos hhalf, if_pos (show Dialect.free.loneHalves = true from rfl), ih hinner, Option.map_some]
  | case8 a b c d rest n hn hpair hhalf ih =>
    obtain ⟨inner, hinner, rfl⟩ := Option.map_eq_some_iff.1 h
    rw [quoted?, hn]
    dsimp only
    rw [if_neg hpair, if_neg hhalf, ih hinner, Option.map_some]
  | case10 e rest hu c hc ih =>
    obtain ⟨inner, hinner, rfl⟩ := Option.map_eq_some_iff.1 h
    rw [quoted?, hc]
    · simp only [ih hinner, Option.map_some]
    · exact hu
  | case12 c rest hquote hunicode hescape hplain ih =>
    obtain ⟨inner, hinner, rfl⟩ := Option.map_eq_some_iff.1 h
    rw [quoted?]
    · rw [if_neg hplain, ih hinner, Option.map_some]
    · exact hquote
    · exact hunicode
    · exact hescape
  | _ => cases h

/-- A number that is not too long for a dialect is read in the same way without limits. -/
theorem number?_free {negative : Bool} {cs rest : List Char} {t : Token} (ht : t ≠ .longNumber)
    (h : number? dialect negative cs = some (t, rest)) : number? .free negative cs = some (t, rest) := by
  unfold number? at h ⊢
  cases hwhole : integerPart? cs with
  | none =>
    rw [hwhole] at h
    cases h
  | some found =>
    rw [hwhole] at h
    simp only [Option.bind_eq_bind, Option.bind_some] at h ⊢
    split at h
    · cases h
      exact absurd rfl ht
    · exact h

theorem next?_free {cs rest : List Char} {t : Token} (ht : t ≠ .longNumber)
    (h : next? dialect cs = some (t, rest)) : next? .free cs = some (t, rest) := by
  cases cs with
  | nil => cases h
  | cons c cs =>
    rw [next?] at h ⊢
    split_ifs at h ⊢
    any_goals exact h
    · obtain ⟨quoted, hquoted, heq⟩ := Option.map_eq_some_iff.1 h
      rw [quoted?_free hquoted, ← heq, Option.map_some]
    all_goals
      split at h
      · exact h
      · exact number?_free ht h

/-- Where a dialect refuses nothing, the tokens are those that are read without limits. -/
theorem scanFrom_free {fuel : Nat} {cs : List Char} (h : AllSound (scanFrom dialect fuel cs)) :
    scanFrom .free fuel cs = scanFrom dialect fuel cs := by
  induction fuel generalizing cs with
  | zero => rfl
  | succ fuel ih =>
    rw [scanFrom] at h ⊢
    rw [scanFrom]
    split
    · rfl
    · rename_i hcs
      split at h
      · exact absurd ‹_› hcs
      · cases hnext : next? dialect (cs.dropWhile isBlank) with
        | none =>
          rw [hnext] at h
          exact absurd rfl (h .invalid List.mem_cons_self).2
        | some found =>
          obtain ⟨t, rest⟩ := found
          rw [hnext] at h
          have ht := (h t List.mem_cons_self).1
          rw [next?_free ht hnext]
          exact congrArg _ (ih fun u hu => h u (List.mem_cons_of_mem _ hu))

/-! ### Integers of strict text -/

/-- No name stands for an integer. -/
theorem name?_ne_int (n : Int) {cs : List Char} (rest : List Char) : name? cs ≠ some (int n, rest) := by
  intro h
  obtain ⟨⟨name, token⟩, hmem, hfound⟩ := List.exists_of_findSome?_eq_some h
  obtain ⟨after, -, heq⟩ := Option.map_eq_some_iff.1 hfound
  cases heq
  simp [names] at hmem

variable [Limits]

theorem hasText_of_number? {negative : Bool} {cs rest : List Char} {n : Int}
    (h : number? .strict negative cs = some (int n, rest)) : Integer.HasText n := by
  unfold number? at h
  cases hwhole : integerPart? cs with
  | none =>
    rw [hwhole] at h
    cases h
  | some found =>
    rw [hwhole] at h
    simp only [Option.bind_eq_bind, Option.bind_some] at h
    split at h
    · cases h
    · rename_i hshort
      split at h
      · cases h
        have hlen : negative.toNat + found.1.length ≤ Integer.maxDigits := by
          simpa [Dialect.strict] using hshort
        exact Integer.natAbs_lt_of_length (by omega) negative
      · cases h

theorem hasText_of_next? {cs rest : List Char} {n : Int} (h : next? .strict cs = some (int n, rest)) :
    Integer.HasText n := by
  cases cs with
  | nil => cases h
  | cons c cs =>
    rw [next?] at h
    split_ifs at h
    any_goals cases h
    · obtain ⟨quoted, -, heq⟩ := Option.map_eq_some_iff.1 h
      cases heq
    all_goals
      split at h
      · rename_i found hname
        cases h
        exact absurd hname (name?_ne_int n rest)
      · exact hasText_of_number? h

theorem hasText_of_mem_scanFrom {fuel : Nat} {cs : List Char} {n : Int} (h : int n ∈ scanFrom .strict fuel cs) :
    Integer.HasText n := by
  induction fuel generalizing cs with
  | zero => cases h
  | succ fuel ih =>
    rw [scanFrom] at h
    split at h
    · cases h
    · split at h
      · rename_i token rest hnext
        rcases List.mem_cons.1 h with rfl | h
        · exact hasText_of_next? hnext
        · exact ih h
      · cases List.mem_singleton.1 h

theorem hasText_of_mem_scan {cs : List Char} {n : Int} (h : int n ∈ scan .strict cs) : Integer.HasText n :=
  hasText_of_mem_scanFrom h

end Token

/-! ## Documents -/

variable {p : Int → Prop}

theorem entriesJson_toEntries {ms : List (String × Json)} :
    Value.EntriesJson p (toEntries ms) ↔ ∀ m ∈ ms, m.2.toValue.IsJsonWith p := by
  induction ms with
  | nil => simp [toEntries, Value.EntriesJson]
  | cons m ms ih =>
    obtain ⟨k, j⟩ := m
    rw [toEntries, Value.EntriesJson, ih, List.forall_mem_cons]
    exact ⟨fun h => h.2, fun h => ⟨⟨k, rfl⟩, h⟩⟩

mutual

/-- Every document is plain data. -/
theorem isJson_toValue : (j : Json) → j.toValue.IsJson
  | null | bool _ | int _ | float _ | text _ => trivial
  | array js => allJson_toValues js
  | object ms => entriesJson_toEntries.2 (isJson_of_mem ms)

theorem allJson_toValues : (js : List Json) → Value.AllJson (fun _ => True) (toValues js)
  | [] => trivial
  | j :: js => ⟨isJson_toValue j, allJson_toValues js⟩

theorem isJson_of_mem : (ms : List (String × Json)) → ∀ m ∈ ms, m.2.toValue.IsJson
  | [] => nofun
  | (_, j) :: ms => List.forall_mem_cons.2 ⟨isJson_toValue j, isJson_of_mem ms⟩

end

theorem isJson_of_mem_setMember {ms : List (String × Json)} {key : String} {j : Json}
    (hms : ∀ m ∈ ms, m.2.toValue.IsJsonWith p) (hj : j.toValue.IsJsonWith p) :
    ∀ m ∈ setMember ms key j, m.2.toValue.IsJsonWith p := by
  intro m hm
  unfold setMember at hm
  by_cases hany : ms.any (·.1 = key) = true
  · rw [if_pos hany] at hm
    obtain ⟨m', hm', rfl⟩ := List.mem_map.1 hm
    by_cases hkey : m'.1 = key
    · rwa [if_pos hkey]
    · rw [if_neg hkey]
      exact hms m' hm'
  · rw [if_neg hany] at hm
    rcases List.mem_append.1 hm with hm | hm
    · exact hms m hm
    · rwa [List.mem_singleton.1 hm]

variable {dialect : Dialect}

/-- The tokens in front of `rest` are sound. -/
def SoundBefore (ts rest : List Token) : Prop :=
  ∃ front, ts = front ++ rest ∧ AllSound front

namespace SoundBefore

theorem refl (ts : List Token) : SoundBefore ts ts :=
  ⟨[], rfl, fun t ht => by cases ht⟩

theorem trans {ts us rest : List Token} (h : SoundBefore ts us) (h' : SoundBefore us rest) :
    SoundBefore ts rest := by
  obtain ⟨front, rfl, hfront⟩ := h
  obtain ⟨front', rfl, hfront'⟩ := h'
  exact ⟨front ++ front', by rw [List.append_assoc], List.forall_mem_append.2 ⟨hfront, hfront'⟩⟩

theorem cons {t : Token} {ts rest : List Token} (h : SoundBefore ts rest)
    (ht : t ≠ .longNumber ∧ t ≠ .invalid := by simp) : SoundBefore (t :: ts) rest :=
  trans ⟨[t], rfl, List.forall_mem_singleton.2 ht⟩ h

end SoundBefore

/-- All integers among the tokens have the property. -/
def IntegersHave (p : Int → Prop) (ts : List Token) : Prop :=
  ∀ n, .int n ∈ ts → p n

theorem IntegersHave.of_soundBefore {ts rest : List Token} (h : IntegersHave p ts) (hrest : SoundBefore ts rest) :
    IntegersHave p rest := by
  obtain ⟨front, rfl, -⟩ := hrest
  exact fun n hn => h n (List.mem_append_right _ hn)

theorem IntegersHave.tail {t : Token} {ts : List Token} (h : IntegersHave p (t :: ts)) : IntegersHave p ts :=
  fun n hn => h n (List.mem_cons_of_mem _ hn)

mutual

/-- What is read from tokens is plain data with the integers of the tokens, and no token is passed over that is not
sound. -/
theorem isJson_of_valueFrom : (fuel : Nat) → {ts : List Token} → IntegersHave p ts → {j : Json} →
    {rest : List Token} → valueFrom fuel ts = .ok (j, rest) → j.toValue.IsJsonWith p ∧ SoundBefore ts rest
  | 0, ts, hts, j, rest, h => by cases h
  | fuel + 1, ts, hts, j, rest, h => by
    rw [valueFrom.eq_def] at h
    dsimp only at h
    split at h
    case h_3 n after =>
      cases h
      exact ⟨hts n List.mem_cons_self, (SoundBefore.refl _).cons⟩
    case h_8 after _ =>
      obtain ⟨⟨items, after⟩, hitems, h⟩ := bind_eq_ok.1 h
      cases h
      obtain ⟨hjs, hbefore⟩ := isJson_of_itemsFrom fuel hts.tail hitems
      exact ⟨hjs, hbefore.cons⟩
    case h_10 after _ =>
      obtain ⟨⟨members, after⟩, hmembers, h⟩ := bind_eq_ok.1 h
      cases h
      obtain ⟨hms, hbefore⟩ := isJson_of_membersFrom fuel hts.tail (fun m hm => by cases hm) hmembers
      exact ⟨entriesJson_toEntries.2 hms, hbefore.cons⟩
    case h_7 => cases h; exact ⟨trivial, (SoundBefore.refl _).cons.cons⟩
    case h_9 => cases h; exact ⟨trivial, (SoundBefore.refl _).cons.cons⟩
    all_goals
      cases h
      try exact ⟨trivial, (SoundBefore.refl _).cons⟩

theorem isJson_of_itemsFrom : (fuel : Nat) → {ts : List Token} → IntegersHave p ts → {js : List Json} →
    {rest : List Token} → itemsFrom fuel ts = .ok (js, rest) →
      Value.AllJson p (toValues js) ∧ SoundBefore ts rest
  | 0, ts, hts, js, rest, h => by cases h
  | fuel + 1, ts, hts, js, rest, h => by
    rw [itemsFrom] at h
    obtain ⟨⟨j, after⟩, hitem, h⟩ := bind_eq_ok.1 h
    obtain ⟨hj, hbefore⟩ := isJson_of_valueFrom fuel hts hitem
    dsimp only at h
    split at h
    · obtain ⟨⟨items, after'⟩, hitems, h⟩ := bind_eq_ok.1 h
      cases h
      obtain ⟨hjs, hrest⟩ := isJson_of_itemsFrom fuel (hts.of_soundBefore hbefore).tail hitems
      exact ⟨⟨hj, hjs⟩, hbefore.trans hrest.cons⟩
    · cases h
      exact ⟨⟨hj, trivial⟩, hbefore.trans (SoundBefore.refl _).cons⟩
    · cases h

theorem isJson_of_membersFrom : (fuel : Nat) → {ts : List Token} → IntegersHave p ts →
    {before ms : List (String × Json)} → (∀ m ∈ before, m.2.toValue.IsJsonWith p) → {rest : List Token} →
    membersFrom fuel before ts = .ok (ms, rest) →
      (∀ m ∈ ms, m.2.toValue.IsJsonWith p) ∧ SoundBefore ts rest
  | 0, ts, hts, before, ms, hbefore, rest, h => by cases h
  | fuel + 1, ts, hts, before, ms, hbefore, rest, h => by
    rw [membersFrom.eq_def] at h
    dsimp only at h
    split at h
    · rename_i key after
      obtain ⟨⟨j, after⟩, hvalue, h⟩ := bind_eq_ok.1 h
      obtain ⟨hj, hsound⟩ := isJson_of_valueFrom fuel hts.tail.tail hvalue
      have hkey := (hsound.cons (t := .colon)).cons (t := .text key)
      dsimp only at h
      split at h
      · obtain ⟨hms, hrest⟩ := isJson_of_membersFrom fuel (hts.of_soundBefore hkey).tail
          (isJson_of_mem_setMember hbefore hj) h
        exact ⟨hms, hkey.trans hrest.cons⟩
      · cases h
        exact ⟨isJson_of_mem_setMember hbefore hj, hkey.trans (SoundBefore.refl _).cons⟩
      · cases h
    · cases h

end

theorem read_eq_ok {s : String} {j : Json} : read dialect s = .ok j ↔
    (∀ n ∈ dialect.nesting, Token.nesting 0 (Token.scan dialect s.toList) ≤ n) ∧
      valueFrom ((Token.scan dialect s.toList).length + 1) (Token.scan dialect s.toList) = .ok (j, []) := by
  unfold read readList
  generalize Token.scan dialect s.toList = ts
  rw [← isTooDeep_eq_false]
  dsimp only
  cases isTooDeep dialect ts with
  | true => exact ⟨nofun, fun h => Bool.noConfusion h.1⟩
  | false =>
    rw [if_neg (by decide), bind_eq_ok]
    constructor
    · rintro ⟨⟨j', rest⟩, hvalue, h⟩
      dsimp only at h
      split at h
      · rename_i hrest
        cases h
        rw [hvalue, List.isEmpty_iff.1 hrest]
        exact ⟨rfl, rfl⟩
      · cases h
    · rintro ⟨-, hvalue⟩
      exact ⟨_, hvalue, rfl⟩

mutual

/-- Nothing is nested too deep for the reader itself: only a dialect has a limit. -/
theorem valueFrom_ne_tooDeep : (fuel : Nat) → (ts : List Token) → valueFrom fuel ts ≠ .error .nestedTooDeep
  | 0, _ => nofun
  | fuel + 1, ts => by
    rw [valueFrom.eq_def]
    dsimp only
    split
    case h_8 => exact bind_ne_error (itemsFrom_ne_tooDeep fuel _) fun _ => nofun
    case h_10 => exact bind_ne_error (membersFrom_ne_tooDeep fuel _ _) fun _ => nofun
    all_goals nofun

theorem itemsFrom_ne_tooDeep : (fuel : Nat) → (ts : List Token) → itemsFrom fuel ts ≠ .error .nestedTooDeep
  | 0, _ => nofun
  | fuel + 1, ts => by
    rw [itemsFrom]
    refine bind_ne_error (valueFrom_ne_tooDeep fuel ts) fun ⟨_, rest⟩ => ?_
    dsimp only
    split
    · exact bind_ne_error (itemsFrom_ne_tooDeep fuel _) fun _ => nofun
    all_goals nofun

theorem membersFrom_ne_tooDeep : (fuel : Nat) → (before : List (String × Json)) → (ts : List Token) →
    membersFrom fuel before ts ≠ .error .nestedTooDeep
  | 0, _, _ => nofun
  | fuel + 1, before, ts => by
    rw [membersFrom.eq_def]
    dsimp only
    split
    · refine bind_ne_error (valueFrom_ne_tooDeep fuel _) fun ⟨_, rest⟩ => ?_
      dsimp only
      split
      · exact membersFrom_ne_tooDeep fuel _ _
      all_goals nofun
    · nofun

end

/-- Plain text can be nested as deep as one likes. -/
theorem read_plain_ne_tooDeep (s : String) : read .plain s ≠ .error .nestedTooDeep := by
  unfold read readList
  refine bind_ne_error (valueFrom_ne_tooDeep _ _) fun ⟨_, rest⟩ => ?_
  dsimp only
  split <;> nofun

/-- Whatever is read from JSON text is plain data. -/
theorem isJson_of_read {s : String} {j : Json} (h : read dialect s = .ok j) : j.toValue.IsJson :=
  (isJson_of_valueFrom _ (fun _ _ => trivial) (read_eq_ok.1 h).2).1

/-- No integer of strict text is too long to have a text. -/
theorem hasText_of_read [Limits] {s : String} {j : Json} (h : read .strict s = .ok j) :
    j.toValue.IsJsonWith Integer.HasText :=
  (isJson_of_valueFrom _ (fun _ hn => Token.hasText_of_mem_scan hn) (read_eq_ok.1 h).2).1

theorem takes_of_read {s : String} {j : Json} (h : read dialect s = .ok j) : dialect.Takes s := by
  obtain ⟨hshallow, hvalue⟩ := read_eq_ok.1 h
  obtain ⟨front, hfront, hsound⟩ := (isJson_of_valueFrom (p := fun _ => True) _ (fun _ _ => trivial) hvalue).2
  rw [List.append_nil] at hfront
  exact ⟨hfront ▸ hsound, hshallow⟩

/-- A dialect reads what is read without limits, from the texts that it takes. -/
theorem read_eq_ok_iff {s : String} {j : Json} :
    read dialect s = .ok j ↔ read .free s = .ok j ∧ dialect.Takes s := by
  have hfree (htakes : dialect.Takes s) : Token.scan .free s.toList = Token.scan dialect s.toList :=
    Token.scanFrom_free htakes.sound
  constructor
  · intro h
    have htakes := takes_of_read h
    refine ⟨read_eq_ok.2 ⟨nofun, ?_⟩, htakes⟩
    rw [hfree htakes]
    exact (read_eq_ok.1 h).2
  · rintro ⟨h, htakes⟩
    refine read_eq_ok.2 ⟨htakes.shallow, ?_⟩
    rw [← hfree htakes]
    exact (read_eq_ok.1 h).2

/-! ## Printed documents -/

@[simp] theorem allSound_nil : AllSound [] :=
  fun _ h => by cases h

@[simp] theorem allSound_cons {t : Token} {ts : List Token} : AllSound (t :: ts) ↔ t.IsSound ∧ AllSound ts :=
  List.forall_mem_cons

@[simp] theorem allSound_append {ts us : List Token} : AllSound (ts ++ us) ↔ AllSound ts ∧ AllSound us :=
  List.forall_mem_append

mutual

/-- If only the length of integers is in doubt, the tokens of a document are sound exactly if no integer is too long. -/
theorem allSound_tokens_iff : (j : Json) → Readable .free j →
    (AllSound (tokens dialect j) ↔ Readable dialect j)
  | null, _ | bool _, _ | text _, _ | array [], _ | object [], _ => by
    simp [tokens, Token.IsSound, Readable, AllReadable, MembersReadable]
  | int n, _ => by
    by_cases hn : dialect.Admits n <;> simp [tokens, Token.IsSound, Readable, hn]
  | float x, hj => by
    have hx : x.isFinite = true := hj
    simp [tokens, Token.IsSound, Readable, hx]
  | array (j :: js), hj => by
    simp [tokens, Token.IsSound, Readable, AllReadable, allSound_tokens_iff j hj.1, allSound_itemTokens_iff js hj.2]
  | object ((k, j) :: ms), hj => by
    have hmembers : AllSound (tokens dialect (object ((k, j) :: ms))) ↔ MembersReadable dialect ((k, j) :: ms) := by
      simp [tokens, Token.IsSound, MembersReadable, allSound_tokens_iff j hj.2.1,
        allSound_memberTokens_iff ms hj.2.2]
    rw [hmembers, Readable, and_iff_right hj.1]

theorem allSound_itemTokens_iff : (js : List Json) → AllReadable .free js →
    (AllSound (itemTokens dialect js) ↔ AllReadable dialect js)
  | [], _ => by simp [itemTokens, AllReadable]
  | j :: js, hjs => by
    simp [itemTokens, Token.IsSound, AllReadable, allSound_tokens_iff j hjs.1, allSound_itemTokens_iff js hjs.2]

theorem allSound_memberTokens_iff : (ms : List (String × Json)) → MembersReadable .free ms →
    (AllSound (memberTokens dialect ms) ↔ MembersReadable dialect ms)
  | [], _ => by simp [memberTokens, MembersReadable]
  | (k, j) :: ms, hms => by
    simp [memberTokens, Token.IsSound, MembersReadable, allSound_tokens_iff j hms.1,
      allSound_memberTokens_iff ms hms.2]

end

/-- A printed document is taken if no integer is too long and it is not nested too deep. -/
theorem takes_print_iff {j : Json} (hj : Readable .free j) (indent : Option Nat) :
    dialect.Takes (print indent j) ↔ Readable dialect j ∧ ∀ n ∈ dialect.nesting, j.depth ≤ n := by
  have hscan : Token.scan dialect (print indent j).toList = tokens dialect j := by
    rw [print, String.toList_ofList, scan_write]
  rw [← allSound_tokens_iff j hj]
  constructor
  · rintro ⟨hsound, hshallow⟩
    rw [hscan] at hsound hshallow
    exact ⟨hsound, fun n hn => @nesting_zero_tokens dialect j ▸ hshallow n hn⟩
  · rintro ⟨hsound, hshallow⟩
    refine ⟨hscan ▸ hsound, fun n hn => ?_⟩
    rw [hscan, nesting_zero_tokens]
    exact hshallow n hn

/-- A printed document is read back exactly if the dialect takes its text. -/
theorem read_print_iff {j : Json} (hj : Readable .free j) (indent : Option Nat) :
    read dialect (print indent j) = .ok j ↔ Readable dialect j ∧ ∀ n ∈ dialect.nesting, j.depth ≤ n := by
  rw [← takes_print_iff hj indent, read_eq_ok_iff, read_print hj nofun]
  exact and_iff_right rfl

end Json

end Segmentation
