import Mathlib.Data.List.TakeDrop
import Mathlib.Tactic.Set
import Segmentation.Proofs.Yaml.Steps
import Segmentation.Proofs.Yaml.Printer

/-!
# Taking the tokens of a written document

* `Token.outside`: a state of reading outside of brackets, with the open block collections.
* `Token.reaches_key`, `Token.reaches_dash`: what announces a value, and opens a block collection if it is
  the first of its kind.
* `Token.reaches_word`, `Token.reaches_text`, `Token.reaches_brackets`: values that stand on one line.
* `Token.reaches_close`: the end of a block collection.
-/

namespace Segmentation.Yaml.Token

open Scan

variable {ts : List Token} {indents : List Nat} {ka : Bool} {k : PendingKey} {pending : Option PendingKey}
  {c : Cursor} {t : List Char}

/-- A state outside of brackets. -/
def outside (ts : List Token) (indents : List Nat) (ka : Bool) (pending : Option PendingKey) : Layout :=
  ⟨ts.toArray, indents, ka, pending, []⟩

@[simp] theorem outside_pending : (outside ts indents ka pending).pending = pending := rfl
@[simp] theorem outside_outer : (outside ts indents ka pending).outer = [] := rfl
@[simp] theorem outside_keyAllowed : (outside ts indents ka pending).keyAllowed = ka := rfl
@[simp] theorem outside_inFlow : (outside ts indents ka pending).inFlow = false := rfl

@[simp] theorem outside_push (w : Token) :
    (outside ts indents ka pending).push w = outside (ts ++ [w]) indents ka pending := by
  simp [outside, Layout.push]

/-- The place `c` is no part of an open block collection that is indented deeper. -/
def Within (indents : List Nat) (c : Cursor) : Prop :=
  ∀ b ∈ indents.head?, b ≤ c.column

/-! ## Before a token -/

/-- A block collection that is indented less than the floor stays open. -/
theorem close_cons_of_lt {b floor : Nat} (hb : b < floor) :
    (outside ts (b :: indents) ka pending).close floor = outside ts (b :: indents) ka pending := by
  simp [Layout.close, outside, List.span_eq_takeWhile_dropWhile, Nat.not_le.2 hb]

theorem close_cons_of_le {b floor : Nat} (hb : floor ≤ b) :
    (outside ts (b :: indents) ka pending).close floor =
      (outside (ts ++ [blockEnd]) indents ka pending).close floor := by
  simp [Layout.close, outside, List.span_eq_takeWhile_dropWhile, hb]

theorem close_outside (hin : Within indents c) :
    (outside ts indents ka pending).close (c.column + 1) = outside ts indents ka pending := by
  cases indents with
  | nil => rfl
  | cons b indents =>
    exact close_cons_of_lt (Nat.lt_succ_of_le (hin b rfl))

theorem before_outside (hin : Within indents c) (hfresh : ∀ k ∈ pending, k.fresh c = true) :
    (outside ts indents ka pending).before c = outside ts indents ka pending := by
  have hkeep : (outside ts indents ka pending).withoutStale c = outside ts indents ka pending := by
    cases pending with
    | none => rfl
    | some k => simp [Layout.withoutStale, outside, hfresh k rfl]
  unfold Layout.before
  rw [if_neg (by simp [Layout.inFlow, outside]), hkeep, close_outside hin]

/-- Reading goes on alike from states that are alike once stale keys are forgotten and deeper collections are
closed. -/
theorem reaches_of_before {l l' : Layout} (hstart : StartsWord c.rest)
    (hkeys : ∀ p ∈ l.pending :: l.outer, ∀ k ∈ p, k.required = true → k.fresh c = true)
    (hkeys' : ∀ p ∈ l'.pending :: l'.outer, ∀ k ∈ p, k.required = true → k.fresh c = true)
    (h : l.before c = l'.before c) : Reaches l c l' c := by
  refine ⟨0, by omega, fun fuel => ?_⟩
  cases fuel with
  | zero => rfl
  | succ fuel => rw [Nat.add_zero, run_allFrom fuel hstart hkeys, run_allFrom fuel hstart hkeys', h]

/-- A possible key on an earlier line is forgotten. -/
theorem reaches_forget (hstart : StartsWord c.rest)
    (hp : ∀ k ∈ pending, k.required = false ∧ k.line < c.line) :
    Reaches (outside ts indents ka pending) c (outside ts indents ka none) c := by
  refine reaches_of_before hstart ?_ (by simp [outside]) ?_
  · intro p hmem k hk hrequired
    obtain rfl : p = pending := by simpa [outside] using hmem
    rw [(hp k hk).1] at hrequired
    cases hrequired
  · cases pending with
    | none => rfl
    | some k =>
      have hstale : k.fresh c = false := by simp [PendingKey.fresh, (hp k rfl).2.ne]
      simp [Layout.before, Layout.withoutStale, Layout.inFlow, outside, Option.filter_some, hstale]

/-- A block collection ends before a line that is indented less. -/
theorem reaches_close {b : Nat} (hstart : StartsWord c.rest) (hb : c.column < b) :
    Reaches (outside ts (b :: indents) ka none) c (outside (ts ++ [blockEnd]) indents ka none) c := by
  refine reaches_of_before hstart (by simp [outside]) (by simp [outside]) ?_
  exact close_cons_of_le hb

/-! ## Choosing how to take a token -/

/-- The place holds no mark between documents. -/
def NoMark (c : Cursor) : Prop :=
  c.column ≠ 0 ∨ StartsLine c.rest

theorem NoMark.exists_run (h : NoMark c) :
    ∃ mark, atDocumentMark.run c = .ok (mark, c) ∧ (c.column = 0 → mark = false) := by
  rcases h with hcolumn | hline
  · unfold atDocumentMark
    rw [bind_run get_run]
    split
    · exact ⟨_, rfl, fun h => absurd h hcolumn⟩
    · exact ⟨_, rfl, fun _ => rfl⟩
  · exact ⟨false, atDocumentMark_run (.inr hline), fun _ => rfl⟩

theorem peekAt_run (n : Nat) : (peekAt n).run c = .ok (c.rest[n]?, c) := rfl

/-- Away from marks between documents, the next characters say which kind of token is taken. -/
theorem run_takeAt {x : Char} {l : Layout} (hmark : NoMark c) (hdirective : x ≠ '%') :
    ((takeAt x).run l).run c = ((
      if x = '[' then openFlow flowSequence
      else if x = '\x7b' then openFlow flowMapping
      else if x = ']' then closeFlow flowSequenceEnd
      else if x = '\x7d' then closeFlow flowMappingEnd
      else if x = ',' then takeComma
      else if x = '-' && endsWord c.rest[1]? then takeDash
      else if x = '?' && (l.inFlow || endsWord c.rest[1]?) then takeKeyMark
      else if x = ':' && (l.inFlow || endsWord c.rest[1]?) then takeColon
      else if x = '*' then takeContent do return aliasTo (← Name.name)
      else if x = '&' then takeContent do return anchor (← Name.name)
      else if x = '!' then takeContent Name.tag
      else if x = '|' && !l.inFlow then takeBlock false
      else if x = '>' && !l.inFlow then takeBlock true
      else if x = '\'' || x = '"' then takeContent (Quoted.token x)
      else if startsPlain l.inFlow x c.rest[1]? then takePlain
      else throw .malformed : Reading Unit).run l).run c := by
  obtain ⟨mark, hrun, hcolumn⟩ := hmark.exists_run
  have hno : ∀ y : Char, (x = y && c.column = 0 && mark) = false := by
    intro y
    by_cases h : c.column = 0
    · simp [hcolumn h]
    · simp [h]
  unfold takeAt
  rw [run_bind run_getThe, run_bind (run_scan (peekAt_run 1)), run_bind (run_scan hrun), run_bind run_get]
  simp only [hno, hdirective, decide_false, Bool.false_and, Bool.false_eq_true, if_false]

/-! ## What announces a value -/

/-- The token with which a block collection opens at a column, unless it is open there. -/
def opening (indents : List Nat) (column : Nat) (t : Token) : List Token :=
  if indents.head?.all (· < column) then [t] else []

/-- The open block collections once there is one at a column. -/
def opened (indents : List Nat) (column : Nat) : List Nat :=
  if indents.head?.all (· < column) then column :: indents else indents

@[simp] theorem opening_self (column : Nat) (t : Token) : opening (column :: indents) column t = [] := by
  simp [opening]

@[simp] theorem opened_self (column : Nat) : opened (column :: indents) column = column :: indents := by
  simp [opened]

theorem insertIdx_length (ts us : List Token) (t : Token) :
    (ts ++ us).insertIdx ts.length t = ts ++ t :: us := by
  induction ts with
  | nil => rfl
  | cons _ ts ih => simp [ih]

theorem openBlock_outside (us : List Token) (column : Nat) (t : Token) :
    (outside (ts ++ us) indents ka pending).openBlock column ts.length t =
      outside (ts ++ (opening indents column t ++ us)) (opened indents column) ka pending := by
  have hfloor : (outside (ts ++ us) indents ka pending).floor ≤ column ↔
      indents.head?.all (· < column) = true := by
    cases indents with
    | nil => simp [Layout.floor, outside]
    | cons b indents =>
      change b + 1 ≤ column ↔ decide (b < column) = true
      rw [decide_eq_true_iff, Nat.succ_le_iff]
  unfold Layout.openBlock opening opened
  split_ifs with h h' h'
  · simp [outside, insertIdx_length]
  · exact absurd (hfloor.1 h) h'
  · exact absurd (hfloor.2 h') h
  · rfl

/-- What is remembered before a token that may be a key. -/
def keyHere (ts : List Token) (indents : List Nat) (c : Cursor) : PendingKey :=
  ⟨ts.length, indents.head? = some c.column, c.index, c.line, c.column⟩

theorem run_rememberKey :
    (rememberKey.run (outside ts indents ka none)).run c =
      .ok (((), outside ts indents ka (if ka then some (keyHere ts indents c) else none)), c) := by
  have hforget := run_forgetKey (l := outside ts indents true none) (c := c) (by simp [outside])
  unfold rememberKey
  rw [run_bind run_get]
  cases ka with
  | false => rfl
  | true =>
    rw [if_pos (show (outside ts indents true none).keyAllowed = true from rfl), run_bind hforget,
      run_bind run_getThe, run_modify]
    rfl

theorem run_takePlain {w : String} {ended : Bool} {c' : Cursor}
    (hplain : (Plain.token false (outside ts indents ka none).floor).run c =
      .ok ((scalar w true, ended), c')) :
    (takePlain.run (outside ts indents ka none)).run c =
      .ok (((), outside (ts ++ [scalar w true]) indents ended
        (if ka then some (keyHere ts indents c) else none)), c') := by
  set l := outside ts indents ka (if ka then some (keyHere ts indents c) else none) with hl
  have hplain' : (Plain.token l.inFlow l.floor).run c = .ok ((scalar w true, ended), c') := hplain
  unfold takePlain
  rw [run_bind run_rememberKey, ← hl, run_bind run_get, run_bind (run_scan hplain')]
  dsimp only
  rw [run_bind (run_allowKey ended), run_emit]
  simp [hl, outside, Layout.push]

/-- A letter, a digit, or a sign before something else than a blank is the start of plain text. -/
theorem takeAt_plain {x : Char} (hmark : NoMark c)
    (hx : x.isAlphanum = true ∨ x = '-' ∧ endsWord c.rest[1]? = false) :
    ((takeAt x).run (outside ts indents ka pending)).run c =
      (takePlain.run (outside ts indents ka pending)).run c := by
  rcases hx with hx | ⟨rfl, hnext⟩
  · have hbreak : isBreak x = false := by simp [isBreak, ne_of_class hx]
    have hstart : startsPlain false x c.rest[1]? = true := by
      simp [startsPlain, isIndicator, endsWord, isBlank, hbreak, ne_of_class hx]
    rw [run_takeAt hmark (ne_of_class hx rfl)]
    simp [outside, Layout.inFlow, ne_of_class hx, hstart]
  · rw [run_takeAt hmark (by decide)]
    simp [outside, Layout.inFlow, hnext, startsPlain]

theorem run_takeColon {w : Token} {k : PendingKey} (hrest : c.rest = ':' :: t)
    (hk : k.position = ts.length) :
    (takeColon.run (outside (ts ++ [w]) indents ka (some k))).run c =
      .ok (((), outside (ts ++ (opening indents k.column blockMapping ++ [key, w, value]))
        (opened indents k.column) false none), c.past 1 t) := by
  have hkey : (outside (ts ++ [w]) indents ka (some k)).tokens.insertIdxIfInBounds k.position key =
      (ts ++ [key, w]).toArray := by
    rw [hk]
    exact (List.insertIdxIfInBounds_toArray ..).trans (congrArg _ (insertIdx_length ..))
  have hopen : (outside (ts ++ [key, w]) indents ka none).openBlock k.column ts.length blockMapping =
      outside (ts ++ (opening indents k.column blockMapping ++ [key, w])) (opened indents k.column) ka none :=
    openBlock_outside [key, w] k.column blockMapping
  unfold takeColon
  rw [run_bind run_get]
  simp only [outside_pending, outside_inFlow, Bool.not_false, if_true]
  rw [run_bind (run_modify _), hkey, run_bind (run_modify _), run_bind (run_allowKey false),
    run_bind (run_scan (skip_one_run hrest (by decide))), run_emit, hk]
  refine (congrArg (fun l : Layout => Except.ok (((), { l with keyAllowed := false }.push value), c.past 1 t))
    hopen).trans ?_
  simp [outside, Layout.push]

theorem isWord_of_isSimpleKey {s : String} (h : isSimpleKey s = true) : Plain.IsWord s.toList := by
  simp only [isSimpleKey, Bool.and_eq_true, List.all_eq_true] at h
  obtain ⟨⟨hhead, hall⟩, -⟩ := h
  refine ⟨?_, ?_, fun x hx => ?_⟩
  · intro hnil
    simp [hnil] at hhead
  · intro hhash
    rw [hhash] at hhead
    cases hhead
  · have hno : ∀ y ∈ [' ', '\t', ':', '\n', '\r', '\x85', '\u2028', '\u2029', '\ufeff'],
        isNameChar y = false := forall_mem_of_all (by decide)
    have hne := fun y hy => ne_of_class (hall x hx) (hno y hy)
    simpa [isBlank, IsOrdinary, isBreak, and_assoc] using hne

/-- A key starts with a letter. -/
theorem exists_cons_of_isSimpleKey {s : String} (h : isSimpleKey s = true) :
    ∃ x cs, s.toList = x :: cs ∧ x.isAlpha = true := by
  cases hcs : s.toList with
  | nil => simp [isSimpleKey, hcs] at h
  | cons x cs =>
    simp only [isSimpleKey, hcs, List.head?_cons, Option.any_some, Bool.and_eq_true] at h
    exact ⟨x, cs, rfl, h.1.1⟩

/-- A key with its colon. -/
theorem reaches_key {k : String} (hin : Within indents c) (hmark : NoMark c)
    (hrest : c.rest = k.toList ++ ':' :: t) (hend : endsWord t.head? = true)
    (hk : isSimpleKey k = true) (hlen : k.length ≤ 1024) :
    Reaches (outside ts indents true none) c
      (outside (ts ++ (opening indents c.column blockMapping ++ [key, scalar k true, value]))
        (opened indents c.column) false none) (c.past (k.length + 1) t) := by
  obtain ⟨x, cs, hcs, hx⟩ := exists_cons_of_isSimpleKey hk
  have hlength : k.toList.length = k.length := String.length_toList
  have hcons : c.rest = x :: (cs ++ ':' :: t) := by rw [hrest, hcs, List.cons_append]
  have hline : StartsLine c.rest := by
    rw [hcons]
    rintro y ⟨⟩
    exact .inl hx
  -- the word may become a key
  have hplain := Plain.token_run_key (isWord_of_isSimpleKey hk) (outside ts indents true none).floor hrest hend
  rw [String.ofList_toList, hlength] at hplain
  have hword : Reaches (outside ts indents true none) c
      (outside (ts ++ [scalar k true]) indents false (some (keyHere ts indents c)))
      (c.past k.length (':' :: t)) := by
    have hshorter : (c.past k.length (':' :: t)).rest.length < c.rest.length := by
      simp only [hcons, List.length_cons, List.length_append, Cursor.past_rest]
      omega
    refine reaches_token hcons hline.startsWord (by simp) ?_ hshorter
    rw [before_outside hin (by simp), takeAt_plain hmark (.inl (by simp [Char.isAlphanum, hx]))]
    exact run_takePlain hplain
  -- and is one
  set c' := c.past k.length (':' :: t) with hc'
  have hfresh : (keyHere ts indents c).fresh c' = true := by simp [PendingKey.fresh, keyHere, hc', hlen]
  have hcolon : Reaches (outside (ts ++ [scalar k true]) indents false (some (keyHere ts indents c))) c'
      (outside (ts ++ (opening indents c.column blockMapping ++ [key, scalar k true, value]))
        (opened indents c.column) false none) (c'.past 1 t) := by
    have hmark' : NoMark c' := by
      left
      rw [hc', Cursor.past_column, ← hlength, hcs, List.length_cons]
      omega
    have hin' : Within indents c' := fun b hb => (hin b hb).trans (by simp [hc'])
    refine reaches_token (x := ':') rfl (by rintro y ⟨⟩; decide) (by simpa using fun _ => hfresh) ?_
      (by simp [hc'])
    rw [before_outside hin' (by simpa using hfresh), run_takeAt hmark' (by decide)]
    have hnext : endsWord c'.rest[1]? = true := by
      rwa [hc', Cursor.past_rest, List.getElem?_cons_succ, ← List.head?_eq_getElem?]
    simp only [outside_inFlow, hnext]
    exact run_takeColon rfl rfl
  have hlast : c'.past 1 t = c.past (k.length + 1) t := Cursor.past_past ..
  rw [← hlast]
  exact hword.trans hcolon

theorem run_takeDash (hrest : c.rest = '-' :: t) :
    (takeDash.run (outside ts indents true none)).run c =
      .ok (((), outside (ts ++ (opening indents c.column blockSequence ++ [blockEntry]))
        (opened indents c.column) true none), c.past 1 t) := by
  have hopen : (outside (ts ++ []) indents true none).openBlock c.column ts.length blockSequence =
      outside (ts ++ (opening indents c.column blockSequence ++ [])) (opened indents c.column) true none :=
    openBlock_outside [] c.column blockSequence
  rw [List.append_nil, List.append_nil] at hopen
  have hhere : ((openHere blockSequence).run (outside ts indents true none)).run c =
      .ok (((), outside (ts ++ opening indents c.column blockSequence) (opened indents c.column) true none),
        c) := by
    rw [← hopen]
    rfl
  unfold takeDash
  rw [run_bind hhere, run_bind (run_allowKey true), run_bind (run_forgetKey (by simp)),
    run_bind (run_scan (skip_one_run hrest (by decide))), run_emit]
  simp [outside, Layout.push]

/-- The dash before an item. -/
theorem reaches_dash (hin : Within indents c) (hrest : c.rest = '-' :: t) (hend : endsWord t.head? = true) :
    Reaches (outside ts indents true none) c
      (outside (ts ++ (opening indents c.column blockSequence ++ [blockEntry])) (opened indents c.column) true
        none) (c.past 1 t) := by
  have hline : StartsLine c.rest := by
    rw [hrest]
    rintro y ⟨⟩
    exact .inr ⟨rfl, hend⟩
  have hnext : endsWord c.rest[1]? = true := by
    rwa [hrest, List.getElem?_cons_succ, ← List.head?_eq_getElem?]
  refine reaches_token hrest hline.startsWord (by simp) ?_ (by simp [hrest])
  rw [before_outside hin (by simp), run_takeAt (.inr hline) (by decide)]
  simp only [hnext]
  exact run_takeDash hrest

/-! ## Values on one line -/

section Line

variable {n b : Nat} {u : List Char}

/-- What has been read on a line cannot become a key on the next one. -/
theorem reaches_lineEnd (hrest : c.rest = '\n' :: (List.replicate n ' ' ++ u)) (hu : StartsLine u)
    (hp : ∀ k ∈ pending, k.required = false ∧ k.line = c.line) :
    Reaches (outside ts indents ka pending) c (outside ts indents true none) (c.nextLine n u) :=
  (reaches_newline n hrest hu.startsWord rfl).trans <|
    reaches_forget hu.startsWord fun k hk => ⟨(hp k hk).1, by simp [(hp k hk).2]⟩

/-- What stands deeper than a block collection is no key that the collection needs. -/
theorem keyHere_free (hb : indents.head? = some b) (hc : b < c.column) :
    ∀ k ∈ if ka then some (keyHere ts indents c) else none, k.required = false ∧ k.line = c.line := by
  cases ka with
  | false => simp
  | true =>
    rintro k ⟨⟩
    have hne : b ≠ c.column := hc.ne
    simp [keyHere, hb, hne]

theorem Within.of_lt (hb : indents.head? = some b) (hc : b < c.column) : Within indents c := by
  intro b' hb'
  rw [hb] at hb'
  cases hb'
  exact hc.le

/-- The text is a word that can stand for a value. -/
structure IsValueWord (w : List Char) : Prop extends Plain.IsWord w where
  start : w.head?.any Char.isAlphanum = true ∨ w.head? = some '-' ∧ endsWord w[1]? = false

/-- Such a word is taken as plain text. -/
theorem IsValueWord.starts {x : Char} {cs t : List Char} (hw : IsValueWord (x :: cs)) :
    StartsWord (x :: (cs ++ t)) ∧ (x.isAlphanum = true ∨ x = '-' ∧ endsWord (x :: (cs ++ t))[1]? = false) := by
  rcases hw.start with hx | ⟨hx, hnext⟩
  · rw [List.head?_cons, Option.any_some] at hx
    refine ⟨?_, .inl hx⟩
    rintro y ⟨⟩
    exact ⟨ne_of_class hx rfl, ne_of_class hx rfl, by simp [isBreak, ne_of_class hx]⟩
  · cases hx
    obtain ⟨y, cs, rfl⟩ : ∃ y cs', cs = y :: cs' := by
      cases cs with
      | nil => cases hnext
      | cons y cs => exact ⟨y, cs, rfl⟩
    refine ⟨?_, .inr ⟨rfl, hnext⟩⟩
    rintro y ⟨⟩
    decide

/-- A word at the end of its line. -/
theorem reaches_word {w : String} (hw : IsValueWord w.toList) (hb : indents.head? = some b)
    (hc : b < c.column) (hn : n ≤ b) (hu : StartsLine u)
    (hrest : c.rest = w.toList ++ '\n' :: (List.replicate n ' ' ++ u)) :
    Reaches (outside ts indents ka none) c (outside (ts ++ [scalar w true]) indents true none)
      ((c.past w.toList.length []).nextLine n u) := by
  obtain ⟨x, cs, hcs⟩ := List.exists_cons_of_ne_nil hw.ne_nil
  have hcons : c.rest = x :: (cs ++ '\n' :: (List.replicate n ' ' ++ u)) := by rw [hrest, hcs, List.cons_append]
  have hfloor : n < (outside ts indents ka none).floor := by
    obtain ⟨bs, rfl⟩ : ∃ bs, indents = b :: bs := List.head?_eq_some_iff.1 hb
    exact Nat.lt_succ_of_le hn
  have hplain := Plain.token_run_line hw.toIsWord hfloor hrest hu
  rw [String.ofList_toList] at hplain
  have htoken : Reaches (outside ts indents ka none) c
      (outside (ts ++ [scalar w true]) indents true (if ka then some (keyHere ts indents c) else none))
      ((c.past w.toList.length []).nextLine n u) := by
    have hstart := IsValueWord.starts (t := '\n' :: (List.replicate n ' ' ++ u)) (hcs ▸ hw)
    refine reaches_token hcons (by rw [hcons]; exact hstart.1) (by simp) ?_ (by simp [hrest]; omega)
    rw [before_outside (.of_lt hb hc) (by simp), takeAt_plain (.inl (by omega)) (by rw [hcons]; exact hstart.2)]
    exact run_takePlain hplain
  refine htoken.trans (reaches_forget hu.startsWord fun k hk => ?_)
  obtain ⟨hrequired, hline⟩ := keyHere_free hb hc k hk
  exact ⟨hrequired, by simp [hline]⟩

/-- Text in quotes at the end of its line. -/
theorem reaches_text {s : String} (hb : indents.head? = some b) (hc : b < c.column) (hu : StartsLine u)
    (hrest : c.rest = quote s ++ '\n' :: (List.replicate n ' ' ++ u)) :
    Reaches (outside ts indents ka none) c (outside (ts ++ [scalar s false]) indents true none)
      ((c.past (quote s).length []).nextLine n u) := by
  have hquoted := Quoted.token_run hrest
  have htake : ((takeContent (Quoted.token '"')).run (outside ts indents ka none)).run c =
      .ok (((), outside (ts ++ [scalar s false]) indents false
        (if ka then some (keyHere ts indents c) else none)),
        c.past (quote s).length ('\n' :: (List.replicate n ' ' ++ u))) := by
    unfold takeContent
    rw [run_bind run_rememberKey, run_bind (run_allowKey false), run_bind (run_scan hquoted), run_emit]
    simp [outside, Layout.push]
  have htoken : Reaches (outside ts indents ka none) c
      (outside (ts ++ [scalar s false]) indents false (if ka then some (keyHere ts indents c) else none))
      (c.past (quote s).length ('\n' :: (List.replicate n ' ' ++ u))) := by
    refine reaches_token (x := '"') hrest ?_ (by simp) ?_ (by simp [hrest, quote]; omega)
    · rw [hrest]
      rintro y ⟨⟩
      decide
    · rw [before_outside (.of_lt hb hc) (by simp), run_takeAt (.inl (by omega)) (by decide)]
      exact htake
  exact htoken.trans (reaches_lineEnd rfl hu (keyHere_free hb hc))

/-- A state behind one opening bracket. -/
def inBrackets (ts : List Token) (indents : List Nat) (ka : Bool) (pending : Option PendingKey) : Layout :=
  ⟨ts.toArray, indents, ka, none, [pending]⟩

theorem run_openFlow {w : Token} {x : Char} (hrest : c.rest = x :: t) (hx : IsOrdinary x) :
    ((openFlow w).run (outside ts indents ka none)).run c =
      .ok (((), inBrackets (ts ++ [w]) indents true (if ka then some (keyHere ts indents c) else none)),
        c.past 1 t) := by
  unfold openFlow
  rw [run_bind run_rememberKey, run_bind (run_modify _), run_bind (run_allowKey true),
    run_bind (run_scan (skip_one_run hrest hx)), run_emit]
  simp [outside, inBrackets, Layout.push]

theorem run_closeFlow {w : Token} {x : Char} (hrest : c.rest = x :: t) (hx : IsOrdinary x) :
    ((closeFlow w).run (inBrackets ts indents ka pending)).run c =
      .ok (((), outside (ts ++ [w]) indents false pending), c.past 1 t) := by
  unfold closeFlow
  rw [run_bind (run_forgetKey (by simp [inBrackets])), run_bind run_get]
  dsimp only [inBrackets]
  rw [run_bind (run_modify _), run_bind (run_allowKey false), run_bind (run_scan (skip_one_run hrest hx)),
    run_emit]
  simp [outside, Layout.push]

/-- An opening bracket. -/
theorem reaches_openFlow {x : Char} {w : Token}
    (hw : x = '[' ∧ w = flowSequence ∨ x = '\x7b' ∧ w = flowMapping)
    (hin : Within indents c) (hc : c.column ≠ 0) (hrest : c.rest = x :: t) :
    Reaches (outside ts indents ka none) c
      (inBrackets (ts ++ [w]) indents true (if ka then some (keyHere ts indents c) else none)) (c.past 1 t) := by
  have hstart : StartsWord c.rest := by
    rw [hrest]
    rintro y ⟨⟩
    rcases hw with ⟨rfl, -⟩ | ⟨rfl, -⟩ <;> decide
  refine reaches_token hrest hstart (by simp) ?_ (by simp [hrest])
  rw [before_outside hin (by simp)]
  rcases hw with ⟨rfl, rfl⟩ | ⟨rfl, rfl⟩
  · rw [run_takeAt (.inl hc) (by decide)]
    exact run_openFlow hrest (by decide)
  · rw [run_takeAt (.inl hc) (by decide)]
    exact run_openFlow hrest (by decide)

/-- A closing bracket. -/
theorem reaches_closeFlow {x : Char} {w : Token}
    (hw : x = ']' ∧ w = flowSequenceEnd ∨ x = '\x7d' ∧ w = flowMappingEnd)
    (hfresh : ∀ k ∈ pending, k.fresh c = true) (hc : c.column ≠ 0) (hrest : c.rest = x :: t) :
    Reaches (inBrackets ts indents ka pending) c (outside (ts ++ [w]) indents false pending) (c.past 1 t) := by
  have hstart : StartsWord c.rest := by
    rw [hrest]
    rintro y ⟨⟩
    rcases hw with ⟨rfl, -⟩ | ⟨rfl, -⟩ <;> decide
  have hbefore : (inBrackets ts indents ka pending).before c = inBrackets ts indents ka pending := by
    cases pending with
    | none => rfl
    | some k => simp [Layout.before, Layout.inFlow, Layout.withoutStale, inBrackets, Option.filter_some, hfresh k rfl]
  refine reaches_token hrest hstart ?_ ?_ (by simp [hrest])
  · simpa [inBrackets] using fun k hk _ => hfresh k hk
  rw [hbefore]
  rcases hw with ⟨rfl, rfl⟩ | ⟨rfl, rfl⟩
  · rw [run_takeAt (.inl hc) (by decide)]
    exact run_closeFlow hrest (by decide)
  · rw [run_takeAt (.inl hc) (by decide)]
    exact run_closeFlow hrest (by decide)

/-- Brackets with nothing between them, at the end of their line. -/
theorem reaches_brackets {x y : Char} {w w' : Token}
    (hw : x = '[' ∧ w = flowSequence ∨ x = '\x7b' ∧ w = flowMapping)
    (hw' : y = ']' ∧ w' = flowSequenceEnd ∨ y = '\x7d' ∧ w' = flowMappingEnd)
    (hb : indents.head? = some b) (hc : b < c.column) (hu : StartsLine u)
    (hrest : c.rest = x :: y :: '\n' :: (List.replicate n ' ' ++ u)) :
    Reaches (outside ts indents ka none) c (outside (ts ++ [w, w']) indents true none)
      ((c.past 2 []).nextLine n u) := by
  set pending := if ka then some (keyHere ts indents c) else none with hpending
  set behind := '\n' :: (List.replicate n ' ' ++ u) with hbehind
  have hopen : Reaches (outside ts indents ka none) c (inBrackets (ts ++ [w]) indents true pending)
      (c.past 1 (y :: behind)) :=
    reaches_openFlow hw (.of_lt hb hc) (by omega) hrest
  have hfresh : ∀ k ∈ pending, k.fresh (c.past 1 (y :: behind)) = true := by
    intro k hk
    obtain ⟨rfl, -⟩ : keyHere ts indents c = k ∧ ka = true := by simpa [hpending, and_comm] using hk
    simp [PendingKey.fresh, keyHere]
  have hclose : Reaches (inBrackets (ts ++ [w]) indents true pending) (c.past 1 (y :: behind))
      (outside (ts ++ [w] ++ [w']) indents false pending) (c.past 2 behind) :=
    reaches_closeFlow hw' hfresh (by simp) rfl
  have hend : Reaches (outside (ts ++ [w, w']) indents false pending) (c.past 2 behind)
      (outside (ts ++ [w, w']) indents true none) ((c.past 2 []).nextLine n u) :=
    reaches_lineEnd rfl hu (keyHere_free hb hc)
  rw [List.append_assoc] at hclose
  exact (hopen.trans hclose).trans hend

end Line

end Segmentation.Yaml.Token
