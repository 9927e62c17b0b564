import Mathlib.Data.List.Basic
import Mathlib.Data.List.TakeWhile
import Segmentation.Text.Markup

/-!
# The tags that a console reads

* `Text.Markup.tagsFrom_append`: the tags of a line are found piece by piece, if the next piece does not close a bracket.
* `Text.Markup.tags_escape`: there are none in an escaped text.
* `Text.Markup.tags_lineOf_iff`: what a line with styled operands shows as it is, and what of it is read as tags.
-/

namespace Segmentation.Text.Markup

/-! ## Reading tags -/

/-- The number of backslashes at the end, if `pending` ones stand before. -/
def pendingAfter (pending : Nat) : List Char → Nat
  | [] => pending
  | c :: cs => if c = '\\' then pendingAfter (pending + 1) cs else pendingAfter 0 cs

/-- An opening or a closing bracket. -/
def isBracket (c : Char) : Bool :=
  c = '[' || c = ']'

variable {c : Char} {cs xs ys : List Char} {pending : Nat}

theorem isTag_cons : isTag (c :: cs) = (startsName c && (cs.find? isBracket = some ']')) :=
  rfl

/-- A bracket starts no name. -/
theorem isTag_eq_false_of_find?_ne (h : ys.find? isBracket ≠ some ']') : isTag ys = false := by
  cases ys with
  | nil => rfl
  | cons c cs =>
    rw [isTag_cons]
    by_cases hc : isBracket c = true
    · have hstarts : startsName c = false := by
        rcases (by simpa [isBracket] using hc : c = '[' ∨ c = ']') with rfl | rfl <;> decide
      rw [hstarts, Bool.false_and]
    · rw [List.find?_cons_of_neg hc] at h
      rw [decide_eq_false h, Bool.and_false]

/-- A piece that does not close a bracket makes no tag of what stands before it. -/
theorem isTag_append (h : ys.find? isBracket ≠ some ']') : isTag (xs ++ ys) = isTag xs := by
  cases xs with
  | nil => exact isTag_eq_false_of_find?_ne h
  | cons c cs =>
    rw [List.cons_append, isTag_cons, isTag_cons, List.find?_append]
    cases hfind : cs.find? isBracket with
    | some d => rfl
    | none => rw [Option.none_or, decide_eq_false h, decide_eq_false (by simp)]

/-- A tag is closed within its text. -/
theorem takeWhile_append_of_isTag (h : isTag xs = true) :
    (xs ++ ys).takeWhile (· ≠ ']') = xs.takeWhile (· ≠ ']') := by
  cases xs with
  | nil => cases h
  | cons c cs =>
    have hmem : ']' ∈ cs := List.mem_of_find?_eq_some (by simpa using (Bool.and_eq_true_iff.1 h).2)
    have hshort : ((c :: cs).takeWhile (· ≠ ']')).length ≠ (c :: cs).length := fun hlength => by
      have hall := List.takeWhile_eq_self_iff.1 ((List.takeWhile_prefix _).eq_of_length hlength)
      exact absurd (hall ']' (List.mem_cons_of_mem c hmem)) (by decide)
    rw [List.takeWhile_append, if_neg hshort]

theorem tagsFrom_append (h : ys.find? isBracket ≠ some ']') :
    tagsFrom pending (xs ++ ys) = tagsFrom pending xs ++ tagsFrom (pendingAfter pending xs) ys := by
  induction xs generalizing pending with
  | nil => rfl
  | cons c cs ih =>
    rw [List.cons_append, tagsFrom, tagsFrom, pendingAfter, isTag_append h]
    split_ifs with hback htag
    · exact ih
    · have hclosed : isTag cs = true := (Bool.and_eq_true_iff.1 (Bool.and_eq_true_iff.1 htag).1).2
      rw [takeWhile_append_of_isTag hclosed, ih, List.cons_append]
    · exact ih

theorem tagsFrom_of_notMem (h : '[' ∉ cs) (pending : Nat) : tagsFrom pending cs = [] := by
  induction cs generalizing pending with
  | nil => rfl
  | cons c cs ih =>
    rw [List.mem_cons, not_or] at h
    rw [tagsFrom, decide_eq_false (Ne.symm h.1), Bool.false_and, Bool.false_and, if_neg Bool.false_ne_true, ih h.2,
      ih h.2, ite_self]

theorem tagsFrom_replicate (n : Nat) :
    tagsFrom pending (List.replicate n '\\' ++ cs) = tagsFrom (pending + n) cs := by
  induction n generalizing pending with
  | zero => rfl
  | succ n ih =>
    rw [List.replicate_succ, List.cons_append, tagsFrom, if_pos rfl, ih, Nat.add_assoc, Nat.add_comm 1 n]

/-! ## Escaped text -/

/-- Escaping adds backslashes, which are no brackets. -/
theorem find?_escapeFrom (pending : Nat) (cs : List Char) :
    (escapeFrom pending cs).find? isBracket = cs.find? isBracket := by
  have hnone : ∀ n, (List.replicate n '\\').find? isBracket = none := fun n =>
    List.find?_eq_none.2 fun d hd => by rw [(List.mem_replicate.1 hd).2]; decide
  induction cs generalizing pending with
  | nil => exact hnone pending
  | cons c cs ih =>
    rw [escapeFrom]
    split_ifs with hback htag
    · rw [ih, hback]
      rfl
    · rw [List.find?_append, hnone, Option.none_or, List.find?_cons, List.find?_cons, ih]
    · rw [List.find?_append, hnone, Option.none_or, List.find?_cons, List.find?_cons, ih]

theorem exists_escapeFrom_succ (pending : Nat) (cs : List Char) :
    ∃ rest, escapeFrom (pending + 1) cs = '\\' :: rest := by
  induction cs generalizing pending with
  | nil => exact ⟨_, rfl⟩
  | cons c cs ih =>
    rw [escapeFrom]
    split_ifs
    · exact ih (pending + 1)
    · exact ⟨_, rfl⟩
    · exact ⟨_, rfl⟩

/-- What follows a bracket is a tag after escaping exactly if it was one before. -/
theorem isTag_escapeFrom (cs : List Char) : isTag (escapeFrom 0 cs) = isTag cs := by
  cases cs with
  | nil => rfl
  | cons c cs =>
    rw [escapeFrom]
    split_ifs with hback htag
    · obtain ⟨rest, hrest⟩ := exists_escapeFrom_succ 0 cs
      rw [hrest, hback]
      rfl
    · obtain ⟨rfl, -⟩ : c = '[' ∧ isTag cs = true := by simpa using htag
      rfl
    · rw [List.replicate_zero, List.nil_append, isTag_cons, isTag_cons, find?_escapeFrom]

/-- Each tag has an odd number of backslashes before it. -/
theorem tagsFrom_escapeFrom (pending : Nat) (cs : List Char) : tagsFrom 0 (escapeFrom pending cs) = [] := by
  induction cs generalizing pending with
  | nil => exact tagsFrom_of_notMem (by simp [escapeFrom]) 0
  | cons c cs ih =>
    rw [escapeFrom]
    split_ifs with hback htag
    · exact ih (pending + 1)
    · rw [tagsFrom_replicate, tagsFrom, if_neg hback, if_neg, ih]
      simp
    · rw [tagsFrom_replicate, tagsFrom, if_neg hback, isTag_escapeFrom, if_neg, ih]
      exact fun hbare => htag (Bool.and_eq_true_iff.1 hbare).1

theorem tags_escape (s : String) : tags (escape s) = [] := by
  unfold tags escape closeEnd
  rw [String.toList_ofList]
  split_ifs
  · rw [tagsFrom_append (by decide), tagsFrom_escapeFrom]
    rfl
  · rw [tagsFrom_escapeFrom]
    rfl

/-! ### Backslashes at the end -/

theorem pendingAfter_append : pendingAfter pending (xs ++ ys) = pendingAfter (pendingAfter pending xs) ys := by
  induction xs generalizing pending with
  | nil => rfl
  | cons c cs ih =>
    rw [List.cons_append, pendingAfter, pendingAfter]
    split_ifs <;> exact ih

theorem pendingAfter_replicate (n : Nat) :
    pendingAfter pending (List.replicate n '\\' ++ cs) = pendingAfter (pending + n) cs := by
  induction n generalizing pending with
  | zero => rfl
  | succ n ih =>
    rw [List.replicate_succ, List.cons_append, pendingAfter, if_pos rfl, ih, Nat.add_assoc, Nat.add_comm 1 n]

/-- The backslashes that are added stand before tags. -/
theorem pendingAfter_escapeFrom (pending : Nat) (cs : List Char) :
    pendingAfter 0 (escapeFrom pending cs) = pendingAfter pending cs := by
  induction cs generalizing pending with
  | nil =>
    rw [escapeFrom, ← List.append_nil (List.replicate _ _), pendingAfter_replicate, Nat.zero_add]
  | cons c cs ih =>
    rw [escapeFrom, pendingAfter]
    split_ifs with hback htag
    · exact ih (pending + 1)
    · rw [pendingAfter_replicate, pendingAfter, if_neg hback, ih]
    · rw [pendingAfter_replicate, pendingAfter, if_neg hback, ih]

theorem backslash_suffix_iff : ys ++ ['\\'] <:+ xs ++ [c] ↔ ys <:+ xs ∧ c = '\\' := by
  rw [List.suffix_append_inj_of_length_eq (by rfl), List.singleton_inj, eq_comm]

theorem pendingAfter_concat : pendingAfter 0 (xs ++ [c]) = if c = '\\' then pendingAfter 0 xs + 1 else 0 := by
  rw [pendingAfter_append]
  rfl

theorem pendingAfter_eq_zero_iff : pendingAfter 0 cs = 0 ↔ ¬ ['\\'] <:+ cs := by
  rcases cs.eq_nil_or_concat with rfl | ⟨xs, c, rfl⟩
  · simp [pendingAfter]
  · rw [List.concat_eq_append, pendingAfter_concat, ← List.nil_append ['\\'], backslash_suffix_iff]
    split_ifs with hback <;> simp [hback]

/-- A backslash is added to one that stands alone at the end. -/
theorem closeEnd_eq (cs : List Char) : closeEnd cs = if pendingAfter 0 cs = 1 then cs ++ ['\\'] else cs := by
  have hone : (pendingAfter 0 cs = 1) ↔ ['\\'] <:+ cs ∧ ¬ ['\\', '\\'] <:+ cs := by
    rcases cs.eq_nil_or_concat with rfl | ⟨xs, c, rfl⟩
    · simp [pendingAfter]
    · have htwo : ['\\', '\\'] <:+ xs ++ [c] ↔ ['\\'] <:+ xs ∧ c = '\\' :=
        @backslash_suffix_iff c xs ['\\']
      rw [List.concat_eq_append, pendingAfter_concat, htwo, ← List.nil_append ['\\'], backslash_suffix_iff,
        List.nil_append]
      split_ifs with hback
      · have hzero : pendingAfter 0 xs = 0 ↔ _ := pendingAfter_eq_zero_iff
        simp [hback, hzero]
      · simp [hback]
  unfold closeEnd
  refine if_congr ?_ rfl rfl
  rw [Bool.and_eq_true, Bool.not_eq_true', ← Bool.not_eq_true, List.isSuffixOf_iff_suffix, List.isSuffixOf_iff_suffix]
  exact hone.symm

/-- The number of backslashes at the end of a text. -/
def backslashes (s : String) : Nat :=
  pendingAfter 0 s.toList

/-- The text ends in an odd number of backslashes, and in more than one. Escaping leaves them as they are, so that the
last one escapes the tag that comes next. -/
def EndsOpen (s : String) : Prop :=
  backslashes s % 2 = 1 ∧ backslashes s ≠ 1

instance (s : String) : Decidable (EndsOpen s) :=
  inferInstanceAs (Decidable (_ ∧ _))

theorem backslashes_escape_mod (s : String) : backslashes (escape s) % 2 = 1 ↔ EndsOpen s := by
  unfold EndsOpen backslashes escape
  rw [String.toList_ofList, closeEnd_eq, pendingAfter_escapeFrom]
  split_ifs with hone
  · rw [pendingAfter_concat, if_pos rfl, pendingAfter_escapeFrom, hone]
    simp
  · rw [pendingAfter_escapeFrom]
    simp [hone]

/-! ## Lines with styled operands -/

/-- Operands in cyan, the first of them after `separator`. -/
def cyanFrom (separator : String) : List String → String
  | [] => ""
  | operand :: operands => separator ++ styled "cyan" operand ++ cyanFrom " and " operands

/-- A subject with operands in cyan. -/
def lineOf (subject : String) (operands : List String) : String :=
  subject ++ cyanFrom " " operands

theorem toList_cyanFrom (separator operand : String) (operands : List String) :
    (cyanFrom separator (operand :: operands)).toList = separator.toList ++ ("[cyan]".toList ++
      (operand.toList ++ ("[/cyan]".toList ++ (cyanFrom " and " operands).toList))) := by
  simp [cyanFrom, styled]

/-- Operands are separated by text without markup. -/
def IsSeparator (s : String) : Prop :=
  s = " " ∨ s = " and "

theorem tagsFrom_separator {separator : String} (h : IsSeparator separator) (pending : Nat) (cs : List Char) :
    tagsFrom pending (separator.toList ++ cs) = tagsFrom 0 cs := by
  rcases h with rfl | rfl <;> rfl

theorem tagsFrom_cyan (cs : List Char) : tagsFrom 0 ("[cyan]".toList ++ cs) = "cyan".toList :: tagsFrom 0 cs :=
  rfl

/-- An odd number of backslashes leaves no closing tag. -/
theorem tagsFrom_endCyan (pending : Nat) (cs : List Char) : tagsFrom pending ("[/cyan]".toList ++ cs) =
    (if pending % 2 = 1 then [] else ["/cyan".toList]) ++ tagsFrom 0 cs := by
  have htag : isTag ("/cyan]".toList ++ cs) = true := rfl
  have hrest : tagsFrom 0 ("/cyan]".toList ++ cs) = tagsFrom 0 cs := rfl
  have hname : ("/cyan]".toList ++ cs).takeWhile (· ≠ ']') = "/cyan".toList := rfl
  change tagsFrom pending ('[' :: ("/cyan]".toList ++ cs)) = _
  rw [tagsFrom, if_neg (by decide), htag, hrest, hname]
  rcases Nat.mod_two_eq_zero_or_one pending with hmod | hmod <;> simp [hmod]

/-- The tags around an operand: none closes the style if the operand escapes it. -/
def tagsAround (operand : String) : List String :=
  "cyan" :: if EndsOpen operand then [] else ["/cyan"]

theorem tagsFrom_cyanFrom {separator : String} (h : IsSeparator separator) (pending : Nat) (operands : List String) :
    tagsFrom pending (cyanFrom separator (operands.map escape)).toList =
      (operands.flatMap tagsAround).map String.toList := by
  induction operands generalizing separator pending with
  | nil => rfl
  | cons operand operands ih =>
    have hescaped : tagsFrom 0 (escape operand).toList = [] := List.map_eq_nil_iff.1 (tags_escape operand)
    have hopen : (pendingAfter 0 (escape operand).toList % 2 = 1) = EndsOpen operand :=
      propext (backslashes_escape_mod operand)
    rw [List.map_cons, toList_cyanFrom, tagsFrom_separator h, tagsFrom_cyan, tagsFrom_append (by exact nofun), hescaped,
      tagsFrom_endCyan, ih (.inr rfl), List.flatMap_cons, List.map_append, tagsAround]
    simp only [hopen]
    split_ifs <;> rfl

theorem tags_lineOf (subject : String) (operands : List String) :
    tags (lineOf subject (operands.map escape)) = tags subject ++ operands.flatMap tagsAround := by
  have hseparated : (cyanFrom " " (operands.map escape)).toList.find? isBracket ≠ some ']' := by
    cases operands with
    | nil => exact nofun
    | cons operand operands =>
      rw [List.map_cons, toList_cyanFrom]
      exact nofun
  have htexts : (operands.flatMap tagsAround).map (String.ofList ∘ String.toList) = operands.flatMap tagsAround :=
    (List.map_congr_left fun _ _ => String.ofList_toList).trans (List.map_id _)
  unfold tags lineOf
  rw [String.toList_append, tagsFrom_append hseparated, tagsFrom_cyanFrom (.inl rfl), List.map_append, List.map_map,
    htexts]

/-- All tags are closed only if no operand escapes the closing one: others do not make up for one that is missing. -/
theorem flatMap_tagsAround_iff (operands : List String) :
    operands.flatMap tagsAround = operands.flatMap (fun _ => ["cyan", "/cyan"]) ↔
      ∀ operand ∈ operands, ¬ EndsOpen operand := by
  induction operands with
  | nil => simp
  | cons operand operands ih =>
    rw [List.flatMap_cons, List.flatMap_cons, List.forall_mem_cons, ← ih, tagsAround]
    by_cases hopen : EndsOpen operand
    · rw [if_pos hopen]
      cases operands <;> simp [hopen, tagsAround]
    · rw [if_neg hopen]
      simp [hopen]

/-- The tags of a line are the pairs around its operands exactly if its subject has none, and no operand has backslashes
at its end that escape the closing one. -/
theorem tags_lineOf_iff (subject : String) (operands : List String) :
    tags (lineOf subject (operands.map escape)) = operands.flatMap (fun _ => ["cyan", "/cyan"]) ↔
      tags subject = [] ∧ ∀ operand ∈ operands, ¬ EndsOpen operand := by
  rw [tags_lineOf, ← flatMap_tagsAround_iff]
  constructor
  · intro h
    -- Every operand opens its own style, so that no tag of the subject does, but the first tag has to.
    have hcount : ∀ around : String → List String, (∀ operand, (around operand).count "cyan" = 1) →
        (operands.flatMap around).count "cyan" = operands.length := fun around haround => by
      rw [List.count_flatMap, show List.count "cyan" ∘ around = fun _ => 1 from funext haround]
      simp
    have hnone : "cyan" ∉ tags subject := by
      have hcounts := congrArg (List.count "cyan") h
      rw [List.count_append, hcount _ fun operand => by unfold tagsAround; split_ifs <;> rfl,
        hcount _ fun _ => rfl] at hcounts
      exact List.count_eq_zero.1 (by omega)
    have hsubject : tags subject = [] := by
      cases hs : tags subject with
      | nil => rfl
      | cons tag rest =>
        rw [hs] at h hnone
        cases operands with
        | nil => cases h
        | cons operand operands =>
          injection h with htag
          exact absurd (htag ▸ List.mem_cons_self) hnone
    rw [hsubject, List.nil_append] at h
    exact ⟨hsubject, h⟩
  · rintro ⟨hsubject, hclosed⟩
    rw [hsubject, List.nil_append, hclosed]

/-- A name without brackets makes no tag of what stands before it. -/
theorem tags_subject (label : String) {name : String} (hopen : '[' ∉ name.toList) (hclose : ']' ∉ name.toList) :
    tags (escape label ++ " " ++ name) = [] := by
  have hnone : (' ' :: name.toList).find? isBracket ≠ some ']' := fun h =>
    hclose (by simpa using List.mem_of_find?_eq_some h)
  have hlist : (escape label ++ " " ++ name).toList = (escape label).toList ++ ' ' :: name.toList := by simp
  have hescaped : tagsFrom 0 (escape label).toList = [] := List.map_eq_nil_iff.1 (tags_escape label)
  rw [tags, hlist, tagsFrom_append hnone, hescaped, tagsFrom_of_notMem (by simpa using hopen)]
  rfl

end Segmentation.Text.Markup
