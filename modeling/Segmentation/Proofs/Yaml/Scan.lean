import Segmentation.Proofs.Json.RoundTrip
import Segmentation.Proofs.Yaml.NumberText

/-!
# Scanning a written YAML document

* `tokens`, `HasSimpleKeys`: the tokens of a document, and the documents whose keys need no quotes.
* `Takes`: the text of a value is read as its tokens, whatever block collections are open around it.
* `takes_further`, `takes_block`: the entries of a block collection.
* `scan_print`: a written document is read as its tokens.
-/

namespace Segmentation.Yaml

open Token

mutual

/-- The tokens of a value. -/
def tokens : Json → List Token
  | .null => [.scalar "null" true]
  | .bool b => [.scalar (if b then "true" else "false") true]
  | .int n => [.scalar (String.ofList (Integer.digits n)) true]
  | .float x => [.scalar (String.ofList (x.textList .yaml)) true]
  | .text s => [.scalar s false]
  | .array [] => [.flowSequence, .flowSequenceEnd]
  | .array (j :: js) => .blockSequence :: (itemTokens (j :: js) ++ [.blockEnd])
  | .object [] => [.flowMapping, .flowMappingEnd]
  | .object (m :: ms) => .blockMapping :: (memberTokens (m :: ms) ++ [.blockEnd])

/-- The tokens of the items of a sequence. -/
def itemTokens : List Json → List Token
  | [] => []
  | j :: js => .blockEntry :: (tokens j ++ itemTokens js)

/-- The tokens of the entries of a mapping. -/
def memberTokens : List (String × Json) → List Token
  | [] => []
  | (k, j) :: ms => .key :: .scalar k true :: .value :: (tokens j ++ memberTokens ms)

end

mutual

/-- The keys in a document need no quotes, and are short enough to be told from text by their colon. -/
def HasSimpleKeys : Json → Prop
  | .array items => AllSimpleKeys items
  | .object members => MembersSimpleKeys members
  | _ => True

/-- All items have such keys. -/
def AllSimpleKeys : List Json → Prop
  | [] => True
  | j :: js => HasSimpleKeys j ∧ AllSimpleKeys js

/-- All members have such keys, and such values. -/
def MembersSimpleKeys : List (String × Json) → Prop
  | [] => True
  | (k, j) :: ms => (isSimpleKey k = true ∧ k.length ≤ 1024) ∧ HasSimpleKeys j ∧ MembersSimpleKeys ms

end

/-! ## Announcing values -/

/-- The text announces a value on a line of its own, in a block collection that opens with a token. -/
structure Announces (first : Token) (text : List Char) (marks : List Token) (ka : Bool) : Prop where
  length_pos : 0 < text.length
  startsLine : ∀ {t}, endsWord t.head? = true → StartsLine (text ++ t)
  reaches : ∀ ts indents c {t}, Within indents c → c.rest = text ++ t → endsWord t.head? = true →
    Reaches (outside ts indents true none) c
      (outside (ts ++ (opening indents c.column first ++ marks)) (opened indents c.column) ka none)
      (c.past text.length t)

theorem announces_dash : Announces .blockSequence ['-'] [.blockEntry] true where
  length_pos := by decide
  startsLine := by
    rintro t ht x ⟨⟩
    exact .inr ⟨rfl, ht⟩
  reaches _ _ _ _ hin hrest ht := reaches_dash hin hrest ht

theorem announces_key {k : String} (hk : isSimpleKey k = true) (hlen : k.length ≤ 1024) :
    Announces .blockMapping (writeKey k ++ [':']) [.key, .scalar k true, .value] false := by
  have hwrite : writeKey k = k.toList := by simp [writeKey, hk]
  have hline : ∀ t, StartsLine (k.toList ++ ':' :: t) := by
    obtain ⟨x, cs, hcs, hx⟩ := exists_cons_of_isSimpleKey hk
    rw [hcs]
    rintro t y ⟨⟩
    exact .inl hx
  rw [hwrite]
  constructor
  · simp
  · intro t _
    simpa using hline t
  · intro ts indents c t hin hrest ht
    have hrest' : c.rest = k.toList ++ ':' :: t := by simpa using hrest
    have hlength : (k.toList ++ [':']).length = k.length + 1 := by
      rw [List.length_append, String.length_toList, List.length_singleton]
    rw [hlength]
    exact reaches_key hin (.inr (hrest' ▸ hline t)) hrest' ht hk hlen

/-- What is written behind an announcement starts with a blank or a break. -/
theorem endsWord_write (level : Nat) (j : Json) (t : List Char) : endsWord (write level j ++ t).head? = true := by
  cases j with
  | bool b => cases b <;> rfl
  | array js => cases js <;> rfl
  | object ms => cases ms <;> rfl
  | _ => rfl

/-! ## Values -/

/-- The text of a value at the end of its line is read as its tokens. The value stands deeper than the innermost
block collection around it, and the next line does not. -/
def Takes (j : Json) : Prop :=
  ∀ (level b n : Nat) ts indents ka c {u}, indents.head? = some b → b < 2 * level → b < c.column → n ≤ b →
    StartsLine u → c.rest = write level j ++ '\n' :: (List.replicate n ' ' ++ u) →
    ∃ c', Reaches (outside ts indents ka none) c (outside (ts ++ tokens j) indents true none) c' ∧
      c'.rest = u ∧ c'.column = n

theorem isValueWord_of_isAlpha {w : List Char} (hne : w ≠ []) (hw : ∀ x ∈ w, x.isAlpha = true) :
    IsValueWord w := by
  obtain ⟨x, cs, rfl⟩ := List.exists_cons_of_ne_nil hne
  have hx := hw x List.mem_cons_self
  refine ⟨⟨hne, ?_, fun y hy => ?_⟩, .inl (by simp [Char.isAlphanum, hx])⟩
  · simpa using ne_of_class hx rfl
  · have hy := hw y hy
    have hblank : isBlank y = false := by simp [isBlank, ne_of_class hy]
    exact ⟨hblank, ne_of_class hy rfl, isBreak_of_isAlpha hy, ne_of_class hy rfl⟩

theorem takes_word {j : Json} {w : List Char} (hw : IsValueWord w)
    (hwrite : ∀ level, write level j = ' ' :: w) (htokens : tokens j = [.scalar (String.ofList w) true]) :
    Takes j := by
  intro level b n ts indents ka c u hb _ hc hn hu hrest
  rw [hwrite, List.cons_append] at hrest
  have hstart : StartsWord (w ++ '\n' :: (List.replicate n ' ' ++ u)) := by
    obtain ⟨x, cs, rfl⟩ := List.exists_cons_of_ne_nil hw.ne_nil
    exact hw.starts.1
  have hblank := reaches_blanks (l := outside ts indents ka none) 1 hrest hstart
  rw [htokens]
  refine ⟨_, hblank.trans (reaches_word ?_ hb (Nat.lt_succ_of_lt hc) hn hu ?_), rfl, rfl⟩
  · rwa [String.toList_ofList]
  · rw [String.toList_ofList]
    rfl

theorem takes_text (s : String) : Takes (.text s) := by
  intro level b n ts indents ka c u hb _ hc hn hu hrest
  have hrest' : c.rest = ' ' :: (quote s ++ '\n' :: (List.replicate n ' ' ++ u)) := hrest
  have hstart : StartsWord (quote s ++ '\n' :: (List.replicate n ' ' ++ u)) := by
    rintro x ⟨⟩
    decide
  have hblank := reaches_blanks (l := outside ts indents ka none) 1 hrest' hstart
  exact ⟨_, hblank.trans (reaches_text hb (Nat.lt_succ_of_lt hc) hu rfl), rfl, rfl⟩

theorem takes_brackets {j : Json} {x y : Char} {w w' : Token}
    (hw : x = '[' ∧ w = flowSequence ∨ x = '\x7b' ∧ w = flowMapping)
    (hw' : y = ']' ∧ w' = flowSequenceEnd ∨ y = '\x7d' ∧ w' = flowMappingEnd)
    (hwrite : ∀ level, write level j = [' ', x, y]) (htokens : tokens j = [w, w']) : Takes j := by
  intro level b n ts indents ka c u hb _ hc hn hu hrest
  rw [hwrite] at hrest
  have hstart : StartsWord (x :: y :: '\n' :: (List.replicate n ' ' ++ u)) := by
    rintro z ⟨⟩
    rcases hw with ⟨rfl, -⟩ | ⟨rfl, -⟩ <;> decide
  have hblank := reaches_blanks (l := outside ts indents ka none) 1 hrest hstart
  rw [htokens]
  exact ⟨_, hblank.trans (reaches_brackets hw hw' hb (Nat.lt_succ_of_lt hc) hu rfl), rfl, rfl⟩

/-! ## Block collections -/

section Block

variable {α : Type} {first : Token} {ka : Bool} (text : α → List Char) (marks : α → List Token) (val : α → Json)

/-- The text of the entries of a block collection. -/
def writeEntries (level : Nat) (as : List α) : List Char :=
  as.flatMap fun a => line level ++ (text a ++ write (level + 1) (val a))

/-- The tokens of the entries of a block collection. -/
def entryTokens (as : List α) : List Token :=
  as.flatMap fun a => marks a ++ tokens (val a)

/-- Each entry is announced, and its value is read. -/
def EntriesTake (first : Token) (ka : Bool) (as : List α) : Prop :=
  ∀ a ∈ as, Announces first (text a) (marks a) ka ∧ Takes (val a)

variable {text marks val}

/-- A value in a block collection and the entries behind it. -/
theorem takes_further {level n : Nat} (base : List Nat) {u : List Char} (hn : n ≤ 2 * level) (hu : StartsLine u)
    {as : List α} (has : EntriesTake text marks val first ka as) {j : Json} (hj : Takes j) (ts : List Token)
    {c : Cursor} (hc : 2 * level < c.column)
    (hrest : c.rest = write (level + 1) j ++ (writeEntries text val level as ++ '\n' :: (List.replicate n ' ' ++ u))) :
    ∃ c', Reaches (outside ts (2 * level :: base) ka none) c
        (outside (ts ++ (tokens j ++ entryTokens marks val as)) (2 * level :: base) true none) c' ∧
      c'.rest = u ∧ c'.column = n := by
  induction as generalizing j ts c with
  | nil =>
    obtain ⟨c', hreach, hend⟩ := hj (level + 1) (2 * level) n ts (2 * level :: base) ka c rfl
      (by omega) hc hn hu hrest
    refine ⟨c', ?_, hend⟩
    simpa [entryTokens] using hreach
  | cons a as ih =>
    obtain ⟨⟨hannounced, ha⟩, has⟩ := List.forall_mem_cons.1 has
    set tail := write (level + 1) (val a) ++
      (writeEntries text val level as ++ '\n' :: (List.replicate n ' ' ++ u)) with htail
    have hword : endsWord tail.head? = true := endsWord_write ..
    -- the value of the entry before
    obtain ⟨c₁, hvalue, hrest₁, hcolumn₁⟩ := hj (level + 1) (2 * level) (2 * level) ts
      (2 * level :: base) ka c rfl (by omega) hc le_rfl (hannounced.startsLine hword)
      (by rw [hrest, htail]; simp [writeEntries, line, List.append_assoc])
    -- the announcement on the next line
    have hannounce := hannounced.reaches (ts ++ tokens j) (2 * level :: base) c₁
      (by rintro b ⟨⟩; exact hcolumn₁.ge) hrest₁ hword
    rw [hcolumn₁, opening_self, opened_self, List.nil_append] at hannounce
    -- its value and the rest
    have hlength := hannounced.length_pos
    obtain ⟨c', hfurther, hend⟩ := ih has ha (ts ++ tokens j ++ marks a) (c := c₁.past (text a).length tail)
      (by rw [Cursor.past_column, hcolumn₁]; omega) rfl
    refine ⟨c', (hvalue.trans (hannounce.trans ?_)), hend⟩
    simpa [entryTokens, List.append_assoc] using hfurther

/-- The entries of a block collection whose first one stands at the place. -/
theorem takes_entries (level : Nat) {n : Nat} (indents : List Nat) {u : List Char} (hn : n ≤ 2 * level)
    (hu : StartsLine u) {a : α} {as : List α} (has : EntriesTake text marks val first ka (a :: as))
    (hin : ∀ b ∈ indents.head?, b < 2 * level) (ts : List Token) {c : Cursor} (hc : c.column = 2 * level)
    (hrest : c.rest = text a ++ (write (level + 1) (val a) ++
      (writeEntries text val level as ++ '\n' :: (List.replicate n ' ' ++ u)))) :
    ∃ c', Reaches (outside ts indents true none) c
        (outside (ts ++ first :: entryTokens marks val (a :: as)) (2 * level :: indents) true none) c' ∧
      c'.rest = u ∧ c'.column = n := by
  obtain ⟨⟨hannounced, ha⟩, has⟩ := List.forall_mem_cons.1 has
  have hannounce := hannounced.reaches ts indents c (fun b hb => hc ▸ (hin b hb).le) hrest (endsWord_write ..)
  have hopens : indents.head?.all (· < 2 * level) = true := by
    cases indents with
    | nil => rfl
    | cons b bs => simpa using hin b rfl
  rw [hc, opening, opened, if_pos hopens, if_pos hopens] at hannounce
  obtain ⟨c', hfurther, hend⟩ := takes_further indents hn hu has ha (ts ++ ([first] ++ marks a))
    (c := c.past (text a).length _) (by have := hannounced.length_pos; rw [Cursor.past_column, hc]; omega) rfl
  refine ⟨c', hannounce.trans ?_, hend⟩
  simpa [entryTokens, List.append_assoc] using hfurther

/-- A block collection as a value. -/
theorem takes_block {j : Json} {a : α} {as : List α} (has : EntriesTake text marks val first ka (a :: as))
    (hwrite : ∀ level, write level j = writeEntries text val level (a :: as))
    (htokens : tokens j = first :: (entryTokens marks val (a :: as) ++ [blockEnd])) : Takes j := by
  intro level b n ts indents ka' c u hb hlevel hc hn hu hrest
  set entries := text a ++ (write (level + 1) (val a) ++
    (writeEntries text val level as ++ '\n' :: (List.replicate n ' ' ++ u))) with hentries
  have hrest' : c.rest = '\n' :: (List.replicate (2 * level) ' ' ++ entries) := by
    rw [hrest, hwrite, hentries]
    simp [writeEntries, line, List.append_assoc]
  have hline : StartsLine entries := (has a List.mem_cons_self).1.startsLine (endsWord_write ..)
  have hnewline := reaches_newline (l := outside ts indents ka' none) (2 * level) hrest' hline.startsWord rfl
  obtain ⟨c', hreach, hrest₁, hcolumn⟩ := takes_entries level (n := n) indents (by omega) hu has
    (fun b' hb' => by rw [hb] at hb'; cases hb'; exact hlevel) ts (c := c.nextLine (2 * level) entries) rfl rfl
  have hclose : Reaches (outside (ts ++ first :: entryTokens marks val (a :: as)) (2 * level :: indents) true none)
      c' (outside (ts ++ first :: entryTokens marks val (a :: as) ++ [blockEnd]) indents true none) c' :=
    reaches_close (by rw [hrest₁]; exact hu.startsWord) (by omega)
  refine ⟨c', hnewline.trans (hreach.trans ?_), hrest₁, hcolumn⟩
  rw [htokens]
  simpa [List.append_assoc] using hclose

end Block

/-! ## Documents -/

theorem writeItems_eq (level : Nat) (js : List Json) :
    writeItems level js = writeEntries (fun _ => ['-']) id level js := by
  induction js with
  | nil => rfl
  | cons j js ih => simp [writeItems, writeEntries, ih]

theorem writeMembers_eq (level : Nat) (ms : List (String × Json)) :
    writeMembers level ms = writeEntries (fun m => writeKey m.1 ++ [':']) (·.2) level ms := by
  induction ms with
  | nil => rfl
  | cons m ms ih => simp [writeMembers, writeEntries, ih]

theorem itemTokens_eq (js : List Json) : itemTokens js = entryTokens (fun _ => [.blockEntry]) id js := by
  induction js with
  | nil => rfl
  | cons j js ih => simp [itemTokens, entryTokens, ih]

theorem memberTokens_eq (ms : List (String × Json)) :
    memberTokens ms = entryTokens (fun m => [.key, .scalar m.1 true, .value]) (·.2) ms := by
  induction ms with
  | nil => rfl
  | cons m ms ih => simp [memberTokens, entryTokens, ih]

mutual

/-- Every value is read as its tokens. -/
theorem takes_of_readable : (j : Json) → Json.Readable .plain j → HasSimpleKeys j → Takes j
  | .null, _, _ =>
    takes_word (w := "null".toList) (isValueWord_of_isAlpha (by decide) (forall_mem_of_all (by decide)))
      (fun _ => rfl) rfl
  | .bool true, _, _ =>
    takes_word (w := "true".toList) (isValueWord_of_isAlpha (by decide) (forall_mem_of_all (by decide)))
      (fun _ => rfl) rfl
  | .bool false, _, _ =>
    takes_word (w := "false".toList) (isValueWord_of_isAlpha (by decide) (forall_mem_of_all (by decide)))
      (fun _ => rfl) rfl
  | .int n, _, _ => takes_word (Scalar.isValueWord_digits n) (fun _ => rfl) rfl
  | .float x, hx, _ => takes_word (Scalar.isValueWord_textList hx) (fun _ => rfl) rfl
  | .text s, _, _ => takes_text s
  | .array [], _, _ => takes_brackets (.inl ⟨rfl, rfl⟩) (.inl ⟨rfl, rfl⟩) (fun _ => rfl) rfl
  | .array (j :: js), hj, hkeys =>
    takes_block (itemsTake_of_readable (j :: js) hj hkeys) (by intro level; rw [write, writeItems_eq])
      (by rw [tokens, itemTokens_eq])
  | .object [], _, _ => takes_brackets (.inr ⟨rfl, rfl⟩) (.inr ⟨rfl, rfl⟩) (fun _ => rfl) rfl
  | .object (m :: ms), hj, hkeys =>
    takes_block (membersTake_of_readable (m :: ms) hj.2 hkeys) (by intro level; rw [write, writeMembers_eq])
      (by rw [tokens, memberTokens_eq])

theorem itemsTake_of_readable : (js : List Json) → Json.AllReadable .plain js → AllSimpleKeys js →
    EntriesTake (fun _ => ['-']) (fun _ => [.blockEntry]) id .blockSequence true js
  | [], _, _ => fun _ h => by cases h
  | j :: js, hjs, hkeys => List.forall_mem_cons.2
    ⟨⟨announces_dash, takes_of_readable j hjs.1 hkeys.1⟩, itemsTake_of_readable js hjs.2 hkeys.2⟩

theorem membersTake_of_readable : (ms : List (String × Json)) → Json.MembersReadable .plain ms →
    MembersSimpleKeys ms → EntriesTake (fun m => writeKey m.1 ++ [':']) (fun m => [.key, .scalar m.1 true, .value])
      (·.2) .blockMapping false ms
  | [], _, _ => fun _ h => by cases h
  | (k, j) :: ms, hms, hkeys => List.forall_mem_cons.2
    ⟨⟨announces_key hkeys.1.1 hkeys.1.2, takes_of_readable j hms.1 hkeys.2.1⟩,
      membersTake_of_readable ms hms.2 hkeys.2.2⟩

end

/-! ## The characters of a document -/

/-- A document may hold all characters of the text as they are. -/
def AllAllowed (cs : List Char) : Prop :=
  ∀ x ∈ cs, isAllowed x = true

instance (cs : List Char) : Decidable (AllAllowed cs) :=
  List.decidableBAll _ cs

theorem allAllowed_append {cs ds : List Char} : AllAllowed (cs ++ ds) ↔ AllAllowed cs ∧ AllAllowed ds :=
  List.forall_mem_append

theorem allAllowed_cons {c : Char} {cs : List Char} :
    AllAllowed (c :: cs) ↔ isAllowed c = true ∧ AllAllowed cs :=
  List.forall_mem_cons

theorem allAllowed_line (level : Nat) : AllAllowed (line level) := by
  refine allAllowed_cons.2 ⟨by decide, fun x hx => ?_⟩
  rw [(List.mem_replicate.1 hx).2]
  decide

theorem allAllowed_writeKey {k : String} (hk : isSimpleKey k = true) : AllAllowed (writeKey k) := by
  have hname : ∀ x, isNameChar x = true → isAllowed x = true := by
    intro x hx
    have hascii : 0x20 ≤ x.toNat ∧ x.toNat ≤ 0x7e := by
      simp only [isNameChar, Bool.or_eq_true, decide_eq_true_eq] at hx
      rcases hx with (hx | rfl) | rfl
      · change (decide (65 ≤ x.val ∧ x.val ≤ 90) || 97 ≤ x.val && x.val ≤ 122 || 48 ≤ x.val && x.val ≤ 57) = true at hx
        simp only [Bool.or_eq_true, Bool.and_eq_true, decide_eq_true_eq, UInt32.le_iff_toNat_le] at hx
        change (((65 ≤ x.toNat ∧ x.toNat ≤ 90) ∨ 97 ≤ x.toNat ∧ x.toNat ≤ 122) ∨ 48 ≤ x.toNat ∧ x.toNat ≤ 57) at hx
        omega
      · decide
      · decide
    simp [isAllowed, hascii]
  have hchars : writeKey k = k.toList := by simp [writeKey, hk]
  simp only [isSimpleKey, Bool.and_eq_true, List.all_eq_true] at hk
  rw [hchars]
  exact fun x hx => hname x (hk.1.2 x hx)

mutual

theorem allAllowed_write (level : Nat) : (j : Json) → Json.Readable .plain j → HasSimpleKeys j →
    AllAllowed (write level j)
  | .null, _, _ => by rw [write]; decide
  | .bool true, _, _ => by rw [write]; decide
  | .bool false, _, _ => by rw [write]; decide
  | .int n, _, _ =>
    allAllowed_cons.2 ⟨by decide, Scalar.isAllowed_of_onlyNumberChars (Integer.onlyNumberChars_digits n)⟩
  | .float x, hx, _ => allAllowed_cons.2
    ⟨by decide, Scalar.isAllowed_of_onlyNumberChars (Binary64.Layout.yaml.onlyNumberChars_textList hx)⟩
  | .text s, _, _ => allAllowed_cons.2 ⟨by decide, isAllowed_quote s⟩
  | .array [], _, _ => by rw [write]; decide
  | .array (j :: js), hj, hkeys => allAllowed_writeItems level (j :: js) hj hkeys
  | .object [], _, _ => by rw [write]; decide
  | .object (m :: ms), hj, hkeys => allAllowed_writeMembers level (m :: ms) hj.2 hkeys

theorem allAllowed_writeItems (level : Nat) : (js : List Json) → Json.AllReadable .plain js → AllSimpleKeys js →
    AllAllowed (writeItems level js)
  | [], _, _ => fun _ h => by cases h
  | j :: js, hjs, hkeys => by
    rw [writeItems, allAllowed_append, allAllowed_append, allAllowed_cons]
    exact ⟨⟨allAllowed_line level, by decide, allAllowed_write (level + 1) j hjs.1 hkeys.1⟩,
      allAllowed_writeItems level js hjs.2 hkeys.2⟩

theorem allAllowed_writeMembers (level : Nat) : (ms : List (String × Json)) → Json.MembersReadable .plain ms →
    MembersSimpleKeys ms → AllAllowed (writeMembers level ms)
  | [], _, _ => fun _ h => by cases h
  | (k, j) :: ms, hms, hkeys => by
    rw [writeMembers, allAllowed_append, allAllowed_append, allAllowed_append, allAllowed_cons]
    exact ⟨⟨⟨allAllowed_line level, allAllowed_writeKey hkeys.1.1⟩, by decide,
      allAllowed_write (level + 1) j hms.1 hkeys.2.1⟩, allAllowed_writeMembers level ms hms.2 hkeys.2.2⟩

end

/-- At the end of the text, the block collection of the whole document is closed. -/
theorem run_allFrom_end {ts : List Token} {c : Cursor} (hrest : c.rest = []) (fuel : Nat) :
    ((allFrom (fuel + 1)).run (outside ts [0] true none)).run c =
      .ok (((), outside (ts ++ [blockEnd]) [] true none), c) := by
  have hin : Within [0] c := by
    rintro b ⟨⟩
    exact Nat.zero_le _
  rw [run_allFrom fuel (by rw [hrest]; rintro x ⟨⟩) (by simp), before_outside hin (by simp), hrest]
  have hclose : Layout.close 0 (outside ts [0] true none) = outside (ts ++ [blockEnd]) [] true none := by
    simp [Layout.close, outside, List.span_eq_takeWhile_dropWhile]
  dsimp only [List.head?_nil]
  rw [run_bind (run_modify _), hclose, run_forgetKey (by simp)]
  rfl

/-- A mapping is written from its first key on. -/
theorem toList_print {m : String × Json} (ms : List (String × Json)) (hm : isSimpleKey m.1 = true) :
    (print (.object (m :: ms))).toList =
      writeKey m.1 ++ [':'] ++ (write 1 m.2 ++ (writeMembers 0 ms ++ ['\n'])) := by
  obtain ⟨x, cs, hcons, hx⟩ := exists_cons_of_isSimpleKey hm
  have hwrite : write 0 (.object (m :: ms)) =
      '\n' :: (writeKey m.1 ++ [':'] ++ (write 1 m.2 ++ writeMembers 0 ms)) := by
    simp [write, writeMembers, line]
  have hkey : writeKey m.1 = x :: cs := by simp [writeKey, hm, hcons]
  have hstop : (decide (x = '\n') || decide (x = ' ')) = false := by simp [ne_of_class hx]
  rw [print, String.toList_ofList, hwrite, hkey]
  simp [hstop]

theorem scan_of_run {cs : List Char} {l : Layout} {c : Cursor} (hmark : ∀ rest, cs ≠ '\ufeff' :: rest)
    (hallowed : cs.all isAllowed = true)
    (h : ((allFrom (cs.length + 1)).run Layout.start).run (Cursor.start cs) = .ok (((), l), c)) :
    Token.scan cs = .ok l.tokens.toList := by
  unfold Token.scan
  split
  · exact absurd rfl (hmark _)
  · rw [if_pos hallowed, h]
    rfl

/-- A written mapping is read as its tokens. -/
theorem scan_print {m : String × Json} {ms : List (String × Json)} (hj : Json.Readable .plain (.object (m :: ms)))
    (hkeys : HasSimpleKeys (.object (m :: ms))) :
    Token.scan (print (.object (m :: ms))).toList = .ok (tokens (.object (m :: ms))) := by
  have hprint := toList_print ms hkeys.1.1
  set text := writeKey m.1 ++ [':'] ++ (write 1 m.2 ++ (writeMembers 0 ms ++ ['\n'])) with htext
  have hstart : StartsLine text := (announces_key hkeys.1.1 hkeys.1.2).startsLine (endsWord_write ..)
  have hmark : ∀ rest, text ≠ '\ufeff' :: rest := by
    intro rest heq
    rcases hstart '\ufeff' (by rw [heq]; rfl) with h | ⟨h, -⟩ <;> cases h
  have hallowed : text.all isAllowed = true := by
    rw [List.all_eq_true]
    refine allAllowed_append.2 ⟨allAllowed_append.2 ⟨allAllowed_writeKey hkeys.1.1, by decide⟩,
      allAllowed_append.2 ⟨allAllowed_write 1 m.2 hj.2.1 hkeys.2.1, allAllowed_append.2
        ⟨allAllowed_writeMembers 0 ms hj.2.2 hkeys.2.2, by decide⟩⟩⟩
  obtain ⟨c, ⟨steps, hsteps, hrun⟩, hrest, -⟩ := takes_entries 0 (n := 0) [] (u := []) le_rfl (by rintro y ⟨⟩)
    (membersTake_of_readable (m :: ms) hj.2 hkeys) (by rintro b ⟨⟩) [] (c := Cursor.start text) rfl
    (by rw [← writeMembers_eq]; rfl)
  obtain ⟨fuel, hfuel⟩ : ∃ fuel, text.length + 1 = fuel + 1 + steps := by
    have hbound : steps ≤ text.length := le_trans (Nat.le_add_right ..) hsteps
    exact ⟨text.length - steps, by omega⟩
  have hlast := (hrun (fuel + 1)).trans (run_allFrom_end hrest fuel)
  rw [hprint, scan_of_run hmark hallowed (hfuel ▸ hlast), tokens, memberTokens_eq]
  rfl

end Segmentation.Yaml
