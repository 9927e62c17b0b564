import Segmentation.Json.Printer
import Segmentation.Proofs.Json.NumberText

/-!
# Scanning a printed JSON document

* `Token.next?_quote`: text in quotes is read as it was written.
* `Token.Scans`: a text starts with given tokens; the texts of such pieces can be put one after another.
* `tokens`: the tokens of a document.
* `scan_write`: the printed document is read as its tokens, compact or indented.
-/

namespace Segmentation.Json

namespace Token

variable (dialect : Dialect)

/-! ## Text in quotes -/

/-- A code below 16 ^ 4 is read back from its four hexadecimal digits. -/
theorem hex4?_hexDigits {n : Nat} (hn : n < 0x10000) :
    ∃ a b c d, Text.Quoted.hexDigits 4 n = [a, b, c, d] ∧ hex4? a b c d = some n := by
  refine ⟨_, _, _, _, rfl, ?_⟩
  unfold hex4?
  simp only [Text.hexValue?_digitChar (Nat.mod_lt _ (by decide : 0 < 16)), Option.bind_eq_bind,
    Option.bind_some, Option.pure_def, Option.some.injEq]
  omega

theorem quoted?_escape {e c : Char} (rest : List Char) (hu : e ≠ 'u') (he : escaped? e = some c) :
    quoted? dialect ('\\' :: e :: rest) = (quoted? dialect rest).map fun (cs, after) => (c :: cs, after) := by
  rw [quoted?.eq_def]
  split
  · rename_i h
    cases h
  · rename_i h
    cases h
  · rename_i h
    exact absurd (List.cons.inj (List.cons.inj h).2).1 hu
  · rename_i h
    obtain ⟨rfl, rfl⟩ := List.cons.inj (List.cons.inj h).2
    rw [he]
  · rename_i h1 h2 h3 h4
    obtain ⟨rfl, rfl⟩ := List.cons.inj h4
    exact (h3 _ _ rfl rfl).elim

theorem quoted?_plain {c : Char} (rest : List Char) (hquote : c ≠ '"') (hslash : c ≠ '\\')
    (hcontrol : ¬c.toNat < 0x20) :
    quoted? dialect (c :: rest) = (quoted? dialect rest).map fun (cs, after) => (c :: cs, after) := by
  rw [quoted?.eq_def]
  split
  · rename_i h
    cases h
  · rename_i h
    exact absurd (List.cons.inj h).1 hquote
  · rename_i h
    exact absurd (List.cons.inj h).1 hslash
  · rename_i h
    exact absurd (List.cons.inj h).1 hslash
  · rename_i h
    obtain ⟨rfl, rfl⟩ := List.cons.inj h
    rw [if_neg (by simp [hslash, hcontrol])]

theorem quoted?_encodeChar (c : Char) (rest : List Char) :
    quoted? dialect (encodeChar c ++ rest) = (quoted? dialect rest).map fun (cs, after) => (c :: cs, after) := by
  unfold encodeChar
  split_ifs with hquote hb hf hn hr ht hcontrol
  · rcases (by simpa using hquote : c = '"' ∨ c = '\\') with rfl | rfl
    · exact quoted?_escape dialect rest (by decide) rfl
    · exact quoted?_escape dialect rest (by decide) rfl
  · subst hb
    exact quoted?_escape dialect rest (by decide) rfl
  · subst hf
    exact quoted?_escape dialect rest (by decide) rfl
  · subst hn
    exact quoted?_escape dialect rest (by decide) rfl
  · subst hr
    exact quoted?_escape dialect rest (by decide) rfl
  · subst ht
    exact quoted?_escape dialect rest (by decide) rfl
  · obtain ⟨a, b, x, d, hdigits, hread⟩ := hex4?_hexDigits (show c.toNat < 0x10000 by omega)
    rw [hdigits]
    simp only [List.cons_append, List.nil_append]
    have hfirst : isFirstHalf c.toNat = false := by simp [isFirstHalf]; omega
    have hsecond : isSecondHalf c.toNat = false := by simp [isSecondHalf]; omega
    rw [quoted?, hread]
    simp [hfirst, hsecond, Char.ofNat_toNat]
  · rw [Bool.or_eq_true, not_or] at hquote
    exact quoted?_plain dialect rest (by simpa using hquote.1) (by simpa using hquote.2) hcontrol

theorem quoted?_encode (cs rest : List Char) :
    quoted? dialect (cs.flatMap encodeChar ++ '"' :: rest) = some (cs, rest) := by
  induction cs with
  | nil => rw [List.flatMap_nil, List.nil_append, quoted?]
  | cons c cs ih => rw [List.flatMap_cons, List.append_assoc, quoted?_encodeChar, ih, Option.map_some]

/-- Text is read as it was written. -/
theorem next?_quote (s : String) (rest : List Char) :
    next? dialect (quote s ++ rest) = some (text s, rest) := by
  have hread := quoted?_encode dialect s.toList rest
  simp [next?, quote, hread]

/-! ## From written text to tokens -/

/-- The text `cs` starts with the tokens `ts`, and `rest` follows them. Each token costs one step of fuel
and takes at least one character. -/
structure Scans (cs : List Char) (ts : List Token) (rest : List Char) : Prop where
  length : ts.length + rest.length ≤ cs.length
  scan : ∀ fuel, scanFrom dialect (fuel + ts.length) cs = ts ++ scanFrom dialect fuel rest

variable {dialect}

namespace Scans

theorem refl (cs : List Char) : Scans dialect cs [] cs :=
  ⟨by simp, fun _ => rfl⟩

theorem trans {cs rest last : List Char} {ts us : List Token} (h : Scans dialect cs ts rest)
    (h' : Scans dialect rest us last) : Scans dialect cs (ts ++ us) last := by
  constructor
  · have := h.length
    have := h'.length
    rw [List.length_append]
    omega
  · intro fuel
    rw [List.length_append, Nat.add_comm ts.length, ← Nat.add_assoc, h.scan, h'.scan,
      List.append_assoc]

/-- Blanks in front of a text make no difference. -/
theorem blanks {bs cs rest : List Char} {ts : List Token} (hbs : ∀ b ∈ bs, isBlank b = true)
    (h : Scans dialect cs ts rest) : Scans dialect (bs ++ cs) ts rest := by
  constructor
  · have := h.length
    rw [List.length_append]
    omega
  · intro fuel
    rw [← h.scan]
    cases fuel + ts.length with
    | zero => rfl
    | succ fuel => rw [scanFrom, scanFrom, List.dropWhile_append_of_pos hbs]

theorem token {c : Char} {cs rest : List Char} {t : Token} (hc : isBlank c = false)
    (hnext : next? dialect (c :: cs) = some (t, rest)) (hlen : rest.length ≤ cs.length) :
    Scans dialect (c :: cs) [t] rest := by
  constructor
  · simp only [List.length_cons, List.length_nil]
    omega
  · intro fuel
    have hdrop : (c :: cs).dropWhile isBlank = c :: cs := by simp [hc]
    rw [List.length_singleton, scanFrom, hdrop]
    simp only [hnext]
    rfl

end Scans

/-- The text of a token, by which the reader recognises it without a look at what follows. -/
theorem scans_append {w rest : List Char} {t : Token} (hw : ∃ c cs, w = c :: cs ∧ isBlank c = false)
    (hnext : next? dialect (w ++ rest) = some (t, rest)) : Scans dialect (w ++ rest) [t] rest := by
  obtain ⟨c, cs, rfl, hc⟩ := hw
  exact Scans.token hc hnext (by simp)

theorem isBlank_newline (indent : Option Nat) (level : Nat) :
    ∀ b ∈ newline indent level, isBlank b = true := by
  intro b hb
  cases indent with
  | none => cases hb
  | some n =>
    rcases List.mem_cons.1 hb with rfl | hb
    · rfl
    · rw [(List.mem_replicate.1 hb).2]
      rfl

theorem scans_colon (indent : Option Nat) (rest : List Char) :
    ∃ bs, (∀ b ∈ bs, isBlank b = true) ∧ Json.colon indent ++ rest = ':' :: (bs ++ rest) := by
  cases indent with
  | none => exact ⟨[], by simp, rfl⟩
  | some n => exact ⟨[' '], by simp [isBlank], rfl⟩

end Token

/-! ## The tokens of a document -/

variable (dialect : Dialect)

mutual

/-- The tokens of a document. What is too long for the dialect is a token of its own, and nothing stands for
a floating-point number without digits. -/
def tokens : Json → List Token
  | null => [.null]
  | bool b => [.bool b]
  | int n => [if dialect.Admits n then .int n else .longNumber]
  | float x => [if x.isFinite then .float x else .null]
  | text s => [.text s]
  | array [] => [.beginArray, .endArray]
  | array (j :: js) => .beginArray :: (tokens j ++ (itemTokens js ++ [.endArray]))
  | object [] => [.beginObject, .endObject]
  | object ((k, j) :: ms) =>
    .beginObject :: .text k :: .colon :: (tokens j ++ (memberTokens ms ++ [.endObject]))

/-- The tokens of the items of an array after the first one. -/
def itemTokens : List Json → List Token
  | [] => []
  | j :: js => .comma :: (tokens j ++ itemTokens js)

/-- The tokens of the members of an object after the first one. -/
def memberTokens : List (String × Json) → List Token
  | [] => []
  | (k, j) :: ms => .comma :: .text k :: .colon :: (tokens j ++ memberTokens ms)

end

/-! ## Scanning a document -/

open Token

variable {dialect}

theorem endsNumber_of_head {c : Char} {cs : List Char}
    (hc : c = ',' ∨ c = ']' ∨ c = '\x7d' ∨ c = '\n') : EndsNumber (c :: cs) := by
  intro d hd
  obtain rfl := Option.mem_some_iff.1 hd
  rcases hc with rfl | rfl | rfl | rfl <;> decide

/-- After a value comes a comma, a closing bracket, or a line break before one. -/
theorem endsNumber_newline (indent : Option Nat) (level : Nat) {cs : List Char}
    (hcs : EndsNumber cs) : EndsNumber (newline indent level ++ cs) := by
  cases indent with
  | none => exact hcs
  | some n => exact endsNumber_of_head (.inr (.inr (.inr rfl)))

theorem endsNumber_writeItems (indent : Option Nat) (level : Nat) (js : List Json) {cs : List Char}
    (hcs : EndsNumber cs) : EndsNumber (writeItems indent level js ++ cs) := by
  cases js with
  | nil => exact hcs
  | cons j js => exact endsNumber_of_head (.inl rfl)

theorem endsNumber_writeMembers (indent : Option Nat) (level : Nat) (ms : List (String × Json))
    {cs : List Char} (hcs : EndsNumber cs) : EndsNumber (writeMembers indent level ms ++ cs) := by
  cases ms with
  | nil => exact hcs
  | cons m ms => exact endsNumber_of_head (.inl rfl)

theorem scans_char (dialect : Dialect) {c : Char} {t : Token} (hc : isBlank c = false)
    (hnext : ∀ rest, next? dialect (c :: rest) = some (t, rest)) (rest : List Char) :
    Scans dialect (c :: rest) [t] rest :=
  Scans.token hc (hnext rest) (Nat.le_refl _)

theorem scans_quote (s : String) (rest : List Char) : Scans dialect (quote s ++ rest) [.text s] rest :=
  scans_append ⟨'"', _, rfl, rfl⟩ (next?_quote dialect s rest)

theorem scans_key (indent : Option Nat) (k : String) {rest : List Char} {ts : List Token}
    {last : List Char} (h : Scans dialect rest ts last) :
    Scans dialect (quote k ++ (colon indent ++ rest)) (.text k :: .colon :: ts) last := by
  obtain ⟨bs, hbs, hcolon⟩ := scans_colon indent rest
  rw [hcolon]
  exact (scans_quote k _).trans ((scans_char dialect rfl (fun _ => rfl) _).trans (h.blanks hbs))

theorem scans_digits (n : Int) {rest : List Char} (hrest : EndsNumber rest) :
    Scans dialect (Integer.digits n ++ rest) (tokens dialect (int n)) rest :=
  scans_append (digits_head n) (next?_digits dialect n hrest)

theorem scans_null (rest : List Char) : Scans dialect ("null".toList ++ rest) [.null] rest :=
  scans_append ⟨'n', _, rfl, rfl⟩ rfl

theorem scans_textList (x : Binary64) {rest : List Char} (hrest : EndsNumber rest) :
    Scans dialect (x.textList .json ++ rest) (tokens dialect (float x)) rest := by
  cases x with
  | nan => exact scans_null rest
  | infinite negative => cases negative <;> exact scans_null rest
  | finite negative mant exp h => exact scans_append (textList_head rfl) (next?_textList dialect rfl hrest)

variable (indent : Option Nat)

mutual

/-- The text of a document is read as its tokens. -/
theorem scans_write (level : Nat) : (j : Json) → (rest : List Char) → EndsNumber rest →
    Scans dialect (write indent level j ++ rest) (tokens dialect j) rest
  | null, rest, _ => scans_null rest
  | bool true, rest, _ => scans_append ⟨'t', _, rfl, rfl⟩ rfl
  | bool false, rest, _ => scans_append ⟨'f', _, rfl, rfl⟩ rfl
  | int n, rest, hrest => scans_digits n hrest
  | float x, rest, hrest => scans_textList x hrest
  | text s, rest, _ => scans_quote s rest
  | array [], rest, _ => (scans_char dialect rfl (fun _ => rfl) _).trans (scans_char dialect rfl (fun _ => rfl) rest)
  | array (j :: js), rest, hrest => by
    have hclose := scans_char dialect (c := ']') rfl (fun _ => rfl) rest
    have hend : EndsNumber (newline indent level ++ ']' :: rest) :=
      endsNumber_newline indent level (endsNumber_of_head (.inr (.inl rfl)))
    have hitems := scans_writeItems (level + 1) js _ hend
    have hfirst := scans_write (level + 1) j _ (endsNumber_writeItems indent (level + 1) js hend)
    have hbody := hfirst.trans (hitems.trans (hclose.blanks (isBlank_newline indent level)))
    have hopen := scans_char dialect (c := '[') rfl (fun _ => rfl)
      (newline indent (level + 1) ++ (write indent (level + 1) j ++
        (writeItems indent (level + 1) js ++ (newline indent level ++ ']' :: rest))))
    have := hopen.trans (hbody.blanks (isBlank_newline indent (level + 1)))
    simpa [write, tokens] using this
  | object [], rest, _ => (scans_char dialect rfl (fun _ => rfl) _).trans (scans_char dialect rfl (fun _ => rfl) rest)
  | object ((k, j) :: ms), rest, hrest => by
    have hclose := scans_char dialect (c := '\x7d') rfl (fun _ => rfl) rest
    have hend : EndsNumber (newline indent level ++ '\x7d' :: rest) :=
      endsNumber_newline indent level (endsNumber_of_head (.inr (.inr (.inl rfl))))
    have hmembers := scans_writeMembers (level + 1) ms _ hend
    have hfirst := scans_write (level + 1) j _ (endsNumber_writeMembers indent (level + 1) ms hend)
    have hbody := scans_key indent k
      (hfirst.trans (hmembers.trans (hclose.blanks (isBlank_newline indent level))))
    have hopen := scans_char dialect (c := '\x7b') rfl (fun _ => rfl)
      (newline indent (level + 1) ++ (quote k ++ (colon indent ++ (write indent (level + 1) j ++
        (writeMembers indent (level + 1) ms ++ (newline indent level ++ '\x7d' :: rest))))))
    have := hopen.trans (hbody.blanks (isBlank_newline indent (level + 1)))
    simpa [write, tokens] using this

/-- The text of further items is read as their tokens. -/
theorem scans_writeItems (level : Nat) : (js : List Json) → (rest : List Char) → EndsNumber rest →
    Scans dialect (writeItems indent level js ++ rest) (itemTokens dialect js) rest
  | [], rest, _ => Scans.refl rest
  | j :: js, rest, hrest => by
    have hitems := scans_writeItems level js rest hrest
    have hfirst := scans_write level j _ (endsNumber_writeItems indent level js hrest)
    have hcomma := scans_char dialect (c := ',') rfl (fun _ => rfl)
      (newline indent level ++ (write indent level j ++ (writeItems indent level js ++ rest)))
    have := hcomma.trans ((hfirst.trans hitems).blanks (isBlank_newline indent level))
    simpa [writeItems, itemTokens] using this

/-- The text of further members is read as their tokens. -/
theorem scans_writeMembers (level : Nat) : (ms : List (String × Json)) → (rest : List Char) →
    EndsNumber rest → Scans dialect (writeMembers indent level ms ++ rest) (memberTokens dialect ms) rest
  | [], rest, _ => Scans.refl rest
  | (k, j) :: ms, rest, hrest => by
    have hmembers := scans_writeMembers level ms rest hrest
    have hfirst := scans_write level j _ (endsNumber_writeMembers indent level ms hrest)
    have hcomma := scans_char dialect (c := ',') rfl (fun _ => rfl)
      (newline indent level ++ (quote k ++ (colon indent ++ (write indent level j ++
        (writeMembers indent level ms ++ rest)))))
    have := hcomma.trans
      ((scans_key indent k (hfirst.trans hmembers)).blanks (isBlank_newline indent level))
    simpa [writeMembers, memberTokens] using this

end

/-- The printed document is read as its tokens, and nothing else. -/
theorem scan_write (dialect : Dialect) (j : Json) : scan dialect (write indent 0 j) = tokens dialect j := by
  have hscan : Scans dialect _ (tokens dialect j) [] := scans_write indent 0 j [] fun _ h => by cases h
  rw [List.append_nil] at hscan
  obtain ⟨extra, hextra⟩ := Nat.exists_eq_add_of_le hscan.length
  rw [List.length_nil, Nat.add_zero, Nat.add_comm] at hextra
  unfold scan
  rw [hextra, hscan.scan]
  cases extra <;> simp [scanFrom]

end Segmentation.Json
