import Segmentation.Proofs.Yaml.Cursor
import Segmentation.Proofs.Yaml.Quoted
import Segmentation.Yaml.Token.Plain
import Segmentation.Yaml.Token.Reader

/-!
# Plain text, and the steps of reading tokens

* `Plain.IsWord`: text that is one word wherever it stands outside of brackets.
* `Plain.token_run_key`, `Plain.token_run_line`: a word before a colon, and a word at the end of its line,
  which is read together with the indentation of the next one.
* `Token.Reaches`: reading goes on from one state as from another; such pieces can be put one after another.
* `Token.reaches_blanks`, `Token.reaches_newline`: between tokens.
* `Token.Reaches.token`: one token.
-/

/-! ## Plain text -/

namespace Segmentation.Yaml.Plain

open Scan

/-- The text is a word of plain text. -/
structure IsWord (cs : List Char) : Prop where
  ne_nil : cs ≠ []
  head : cs.head? ≠ some '#'
  chars : ∀ x ∈ cs, isBlank x = false ∧ x ≠ ':' ∧ IsOrdinary x

variable {c : Cursor} {cs rest : List Char}

theorem word_append (h : IsWord cs) (hrest : word false rest = []) : word false (cs ++ rest) = cs := by
  have hchars := h.chars
  clear h
  induction cs with
  | nil => exact hrest
  | cons x cs ih =>
    rw [List.forall_mem_cons] at hchars
    obtain ⟨⟨hblank, hcolon, hbreak, -⟩, hcs⟩ := hchars
    rw [List.cons_append, word]
    simp [hblank, hbreak, hcolon, ih hcs]

theorem word_colon (hrest : endsWord rest.head? = true) : word false (':' :: rest) = [] := by
  have hbreak : isBreak ':' = false := by decide
  simp [word, isBlank, hbreak, hrest]

/-- A word is all of the text if nothing or a line that is indented too little follows it. -/
theorem token_run_of_gap (h : IsWord cs) (floor : Nat) (hrest : c.rest = cs ++ rest)
    (hstop : word false rest = []) {between : Gap} {c' : Cursor}
    (hgap : gap.run (c.past cs.length rest) = .ok (between, c'))
    (hend : between.text = none ∨ c'.column < floor) :
    (token false floor).run c = .ok ((.scalar (String.ofList cs) true, between.endsLine), c') := by
  have hword : word false c.rest = cs := by rw [hrest, word_append h hstop]
  have hskip := skip_run hrest fun x hx => (h.chars x hx).2.2
  have hgoes : (cs.isEmpty || decide (c.rest.head? = some '#')) = false := by
    obtain ⟨x, cs', rfl⟩ := List.exists_cons_of_ne_nil h.ne_nil
    have hx : x ≠ '#' := fun hx => h.head (by rw [hx]; rfl)
    simp [hrest, hx]
  have htext : (textFrom false floor [] false (c.rest.length + 1)).run c =
      .ok ((cs, between.endsLine), c') := by
    unfold textFrom
    rw [bind_run get_run, hword]
    dsimp only
    rw [bind_run peek_run, hgoes, if_neg Bool.false_ne_true, bind_run hskip, bind_run hgap]
    rcases hend with hnone | hcolumn
    · rw [hnone]
      rfl
    · split
      · rfl
      · rw [bind_run peek_run, bind_run get_run, if_pos (by simp [hcolumn])]
        rfl
  unfold token
  rw [bind_run bound_run, bind_run htext]
  rfl

/-- A word before a colon. -/
theorem token_run_key (h : IsWord cs) (floor : Nat) (hrest : c.rest = cs ++ ':' :: rest)
    (hend : endsWord rest.head? = true) :
    (token false floor).run c =
      .ok ((.scalar (String.ofList cs) true, false), c.past cs.length (':' :: rest)) := by
  have hblanks := blanks_run (c := c.past cs.length (':' :: rest)) 0 rfl (by simp)
  have hbreak := lineBreak_run_none (c := c.past cs.length (':' :: rest)) (by simp [isBreak])
  rw [Cursor.past_past, Nat.add_zero] at hblanks
  have hgap : gap.run (c.past cs.length (':' :: rest)) =
      .ok (⟨none, false⟩, c.past cs.length (':' :: rest)) := by
    unfold gap
    rw [bind_run hblanks, bind_run hbreak]
    rfl
  exact token_run_of_gap h floor hrest (word_colon hend) hgap (.inl rfl)

/-- A word at the end of a line, after which the next line has less than `floor` blanks. -/
theorem token_run_line (h : IsWord cs) {floor n : Nat} (hn : n < floor)
    (hrest : c.rest = cs ++ '\n' :: (List.replicate n ' ' ++ rest)) (hline : StartsLine rest) :
    (token false floor).run c =
      .ok ((.scalar (String.ofList cs) true, true), (c.past cs.length []).nextLine n rest) := by
  set here := c.past cs.length ('\n' :: (List.replicate n ' ' ++ rest)) with hhere
  have hblanks := blanks_run (c := here) 0 rfl (by simp)
  rw [hhere, Cursor.past_past, Nat.add_zero, ← hhere] at hblanks
  have hbreak := lineBreak_run (c := here) rfl
  set next := here.nextLine 0 (List.replicate n ' ' ++ rest) with hnext
  have hmark : atDocumentMark.run next = .ok (false, next) := by
    refine atDocumentMark_run ?_
    cases n with
    | zero => exact .inr hline
    | succ n => exact .inl rfl
  have hindent := blanks_run (c := next) n rfl fun x hx => (hline.startsWord x hx).1
  have hstart := lineBreak_run_none (c := next.past n rest) fun x hx => (hline.startsWord x hx).2.2
  have hbreaks : ∀ fuel, (breaksFrom (fuel + 1)).run next = .ok (some [], next.past n rest) := by
    intro fuel
    unfold breaksFrom
    rw [bind_run hmark, if_neg Bool.false_ne_true, bind_run hindent, bind_run hstart]
    rfl
  have hgap : gap.run here = .ok (⟨some [' '], true⟩, next.past n rest) := by
    unfold gap
    rw [bind_run hblanks, bind_run hbreak]
    dsimp only
    rw [bind_run bound_run, bind_run (hbreaks _)]
    rfl
  have hcursor : next.past n rest = (c.past cs.length []).nextLine n rest := by
    rw [hnext, Cursor.nextLine_past, Nat.zero_add]
    rfl
  rw [hcursor] at hgap
  exact token_run_of_gap h floor hrest (by simp [word, isBlank, isBreak]) hgap (.inr hn)

end Segmentation.Yaml.Plain

namespace Segmentation.Yaml.Token

open Scan

variable {α β : Type} {l l' l'' : Layout} {c c' c'' : Cursor} {rest : List Char}

/-! ## Steps as equations -/

theorem run_bind {x : Reading α} {f : α → Reading β} {a : α}
    (h : (x.run l).run c = .ok ((a, l'), c')) :
    ((x >>= f).run l).run c = ((f a).run l').run c' := by
  rw [StateT.run_bind, StateT.run_bind, h]
  rfl

theorem run_scan {x : Scan α} {a : α} (h : x.run c = .ok (a, c')) :
    ((liftM x : Reading α).run l).run c = .ok ((a, l), c') := by
  change (x >>= fun a => pure (a, l)).run c = _
  rw [Scan.bind_run h]
  rfl

theorem run_get : ((get : Reading Layout).run l).run c = .ok ((l, l), c) := rfl

theorem run_getThe : ((getThe Cursor : Reading Cursor).run l).run c = .ok ((c, l), c) := rfl

theorem run_modify (f : Layout → Layout) : ((modify f : Reading Unit).run l).run c = .ok (((), f l), c) := rfl

theorem run_allowKey (allowed : Bool) :
    ((allowKey allowed).run l).run c = .ok (((), { l with keyAllowed := allowed }), c) := rfl

theorem run_emit (t : Token) : ((emit t).run l).run c = .ok (((), l.push t), c) := rfl

/-- A possible key that is not required may be forgotten. -/
theorem run_forgetKey (h : ∀ k ∈ l.pending, k.required = false) :
    (forgetKey.run l).run c = .ok (((), { l with pending := none }), c) := by
  have hguard : (!l.pending.any (·.required)) = true := by
    cases hp : l.pending with
    | none => rfl
    | some k => simp [h k hp]
  unfold forgetKey
  rw [run_bind run_get, hguard]
  rfl

/-! ## Between tokens -/

theorem run_toNextFrom (n fuel : Nat) (hrest : c.rest = List.replicate n ' ' ++ rest)
    (hstart : StartsWord rest) : ((toNextFrom (fuel + 1)).run l).run c = .ok (((), l), c.past n rest) := by
  have hcomment : ¬rest.head? = some '#' := fun hx => (hstart _ hx).2.1 rfl
  unfold toNextFrom
  rw [run_bind (run_scan (blanks_run n hrest fun x hx => (hstart x hx).1)), run_bind (run_scan peek_run),
    Cursor.past_rest, if_neg hcomment,
    run_bind (run_scan (lineBreak_run_none fun x hx => (hstart x hx).2.2))]
  rfl

/-- Over the end of a line outside of brackets, after which a key may stand. -/
theorem run_toNextFrom_newline (n fuel : Nat) (hrest : c.rest = '\n' :: (List.replicate n ' ' ++ rest))
    (hstart : StartsWord rest) (hout : l.outer = []) :
    ((toNextFrom (fuel + 2)).run l).run c = .ok (((), { l with keyAllowed := true }), c.nextLine n rest) := by
  have hblanks := blanks_run (c := c) 0 hrest (by simp)
  have hnext := run_toNextFrom (l := { l with keyAllowed := true }) (c := c.nextLine 0 _) n fuel rfl hstart
  rw [Cursor.nextLine_past, Nat.zero_add] at hnext
  have hflow : (!l.inFlow) = true := by simp [Layout.inFlow, hout]
  unfold toNextFrom
  rw [run_bind (run_scan hblanks), run_bind (run_scan peek_run), Cursor.past_rest,
    if_neg (by simp), run_bind (run_scan (lineBreak_run (c := c.past 0 _) rfl))]
  dsimp only
  rw [run_bind run_get, hflow, if_pos rfl, run_bind (run_allowKey true)]
  exact hnext

/-- Reading goes on from the first state as from the second one. Each token that is taken in between costs
one step of fuel and takes at least one character. -/
def Reaches (l : Layout) (c : Cursor) (l' : Layout) (c' : Cursor) : Prop :=
  ∃ steps, steps + c'.rest.length ≤ c.rest.length ∧ ∀ fuel,
    ((allFrom (fuel + steps)).run l).run c = ((allFrom fuel).run l').run c'

theorem Reaches.trans (h : Reaches l c l' c') (h' : Reaches l' c' l'' c'') : Reaches l c l'' c'' := by
  obtain ⟨m, hm, hfirst⟩ := h
  obtain ⟨n, hn, hsecond⟩ := h'
  refine ⟨n + m, by omega, fun fuel => ?_⟩
  rw [← Nat.add_assoc, hfirst, hsecond]

/-- Moving to the next token makes no difference. -/
theorem reaches_of_toNext (hlen : c'.rest.length ≤ c.rest.length)
    (h : ((toNextFrom (c.rest.length + 1)).run l).run c = .ok (((), l'), c'))
    (h' : ((toNextFrom (c'.rest.length + 1)).run l').run c' = .ok (((), l'), c')) : Reaches l c l' c' := by
  refine ⟨0, by omega, fun fuel => ?_⟩
  cases fuel with
  | zero => rfl
  | succ fuel =>
    rw [Nat.add_zero]
    unfold allFrom
    rw [run_bind (run_scan bound_run), run_bind h, run_bind (run_scan bound_run), run_bind h']

theorem reaches_blanks (n : Nat) (hrest : c.rest = List.replicate n ' ' ++ rest)
    (hstart : StartsWord rest) : Reaches l c l (c.past n rest) := by
  refine reaches_of_toNext (by simp [hrest]) (run_toNextFrom n _ hrest hstart) ?_
  have h := run_toNextFrom (l := l) (c := c.past n rest) 0 rest.length rfl hstart
  rwa [Cursor.past_past] at h

theorem reaches_newline (n : Nat) (hrest : c.rest = '\n' :: (List.replicate n ' ' ++ rest))
    (hstart : StartsWord rest) (hout : l.outer = []) :
    Reaches l c { l with keyAllowed := true } (c.nextLine n rest) := by
  have hlen : ∃ k, c.rest.length = k + 1 := ⟨_, by rw [hrest, List.length_cons]⟩
  obtain ⟨k, hk⟩ := hlen
  refine reaches_of_toNext (by simp [hrest]; omega) ?_ ?_
  · rw [hk]
    exact run_toNextFrom_newline n k hrest hstart hout
  · have h := run_toNextFrom (l := { l with keyAllowed := true }) (c := c.nextLine n rest) 0 rest.length rfl
      hstart
    rwa [Cursor.nextLine_past] at h

/-! ## One token -/

/-- A layout without the possible keys that no longer can be one. -/
def Layout.withoutStale (l : Layout) (c : Cursor) : Layout :=
  { l with
    pending := l.pending.filter (·.fresh c)
    outer := l.outer.map fun k => k.filter (·.fresh c) }

theorem run_forgetStale
    (hkeys : ∀ p ∈ l.pending :: l.outer, ∀ k ∈ p, k.required = true → k.fresh c = true) :
    (forgetStale.run l).run c = .ok (((), l.withoutStale c), c) := by
  have hguard : ((l.pending :: l.outer).all fun p => !p.any fun k => !k.fresh c && k.required) = true := by
    refine List.all_eq_true.2 fun p hp => ?_
    cases p with
    | none => rfl
    | some k =>
      have hk := hkeys _ hp k rfl
      cases hr : k.required <;> simp_all
  unfold forgetStale
  rw [run_bind run_get, run_bind run_getThe]
  simp only [hguard, Bool.not_not]
  rfl

/-- What becomes of a layout before a token is taken: stale keys are forgotten, and block collections that are
indented deeper than the token are closed. -/
def Layout.before (l : Layout) (c : Cursor) : Layout :=
  if l.inFlow then l.withoutStale c else (l.withoutStale c).close (c.column + 1)

theorem run_allFrom (fuel : Nat) (hstart : StartsWord c.rest)
    (hkeys : ∀ p ∈ l.pending :: l.outer, ∀ k ∈ p, k.required = true → k.fresh c = true) :
    ((allFrom (fuel + 1)).run l).run c = (((match c.rest.head? with
      | none => do
        modify (Layout.close 0)
        forgetKey
      | some x => do
        takeAt x
        allFrom fuel) : Reading Unit).run (l.before c)).run c := by
  have hnext := run_toNextFrom (l := l) (c := c) 0 c.rest.length rfl hstart
  have hflow : (l.withoutStale c).inFlow = l.inFlow := by simp [Layout.withoutStale, Layout.inFlow]
  conv => lhs; unfold allFrom
  rw [run_bind (run_scan bound_run), run_bind hnext, Cursor.past_zero, run_bind (run_forgetStale hkeys),
    run_bind run_get, hflow]
  unfold Layout.before
  cases l.inFlow with
  | true =>
    rw [if_neg (by simp), if_pos rfl]
    refine (run_bind (run_scan peek_run)).trans ?_
    cases c.rest.head? <;> rfl
  | false =>
    rw [if_pos (by simp), if_neg (by simp), run_bind run_getThe, run_bind (run_modify _)]
    refine (run_bind (run_scan peek_run)).trans ?_
    cases c.rest.head? <;> rfl

/-- The step to behind a token. -/
theorem reaches_token {x : Char} (hrest : c.rest = x :: rest) (hstart : StartsWord c.rest)
    (hkeys : ∀ p ∈ l.pending :: l.outer, ∀ k ∈ p, k.required = true → k.fresh c = true)
    (htake : ((takeAt x).run (l.before c)).run c = .ok (((), l'), c'))
    (hlen : c'.rest.length < c.rest.length) : Reaches l c l' c' := by
  refine ⟨1, by omega, fun fuel => ?_⟩
  rw [run_allFrom fuel hstart hkeys, hrest]
  exact run_bind htake

end Segmentation.Yaml.Token
