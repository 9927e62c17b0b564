import Segmentation.Proofs.Console.Contacts
import Segmentation.Proofs.Number.Digits
import Segmentation.Proofs.Outcome

/-!
# The e-mails that an evaluation shows

* `Console.shownEmails_prefix`: whatever the limit is, the e-mails that are shown are the first ones.
* `Console.shown_add_announced_iff`: with those that are announced they are all e-mails exactly if the limit is not
  negative.
* `Console.rows`, `Console.Announces`: what the lines and tables that are printed show and announce.
* `Console.Command.run_evaluate_accounts`: so an evaluation accounts for all e-mails exactly if its limit is not
  negative; `Console.Command.not_accounts_negative` is about a run with another one.
-/

namespace Segmentation.Console

open Storage

/-! ## Shown and announced -/

theorem shownEmails_prefix (emails : List String) (limit : Int) : shownEmails emails limit <+: emails := by
  unfold shownEmails
  split <;> exact List.take_prefix _ _

/-- The number of e-mails that is announced, none if nothing is said about more e-mails. -/
def announced (emails : List String) (limit : Int) : Int :=
  (announcedRest? emails limit).getD 0

/-- A negative limit is subtracted as it is, so that more e-mails are announced than there are. -/
theorem announced_of_neg {emails : List String} {limit : Int} (h : limit < 0) :
    announced emails limit = emails.length - limit := by
  rw [announced, announcedRest?, if_pos (by omega)]
  rfl

theorem announced_of_nonneg {emails : List String} {limit : Int} (h : 0 ≤ limit) :
    announced emails limit = emails.length - (shownEmails emails limit).length := by
  rw [shownEmails, if_pos h, List.length_take, announced, announcedRest?]
  split
  · rw [Option.getD_some]
    omega
  · rw [Option.getD_none]
    omega

/-- The e-mails that are shown and those that are announced are all e-mails exactly if the limit is not negative. -/
theorem shown_add_announced_iff (emails : List String) (limit : Int) :
    (shownEmails emails limit).length + announced emails limit = emails.length ↔ 0 ≤ limit := by
  constructor
  · intro h
    by_contra hneg
    rw [announced_of_neg (by omega)] at h
    omega
  · intro h
    rw [announced_of_nonneg h]
    omega

/-! ## What is printed -/

/-- The rows of the tables that are printed. -/
def rows (printed : List Printed) : List (List String) :=
  printed.flatMap fun
    | .table _ _ rows => rows
    | _ => []

theorem restLine_inj {k m : Int} : restLine k = restLine m ↔ k = m := by
  unfold restLine Text.Markup.styled
  rw [Printed.line.injEq]
  simp only [String.append_left_inj, String.append_right_inj, Integer.toString_inj]

/-- A line in a style whose name starts with another letter announces no e-mails. -/
theorem restLine_ne {style s : String} {d : Char} (hstyle : style.toList.head? = some d) (hd : d ≠ 'd') (k : Int) :
    restLine k ≠ .line (Text.Markup.styled style s) := by
  obtain ⟨ds, hds⟩ := List.head?_eq_some_iff.1 hstyle
  intro h
  have hlist := congrArg String.toList (Printed.line.inj h)
  simp only [Text.Markup.styled, String.toList_append, hds] at hlist
  exact hd (List.cons.inj (List.cons.inj hlist).2).1.symm

/-- What is printed announces `k` more e-mails: there is a line that does, or none at all and `k` is zero. -/
inductive Announces (printed : List Printed) : Int → Prop where
  | line {k : Int} (h : restLine k ∈ printed) : Announces printed k
  | silent (h : ∀ k, restLine k ∉ printed) : Announces printed 0

section

variable {found : Segment} {among : List Value} {r : Resolution}

theorem rows_append (ps qs : List Printed) : rows (ps ++ qs) = rows ps ++ rows qs :=
  List.flatMap_append

/-- Lines have no rows. -/
theorem rows_lines {ps : List Printed} (h : ∀ p ∈ ps, ∃ markup, p = .line markup) : rows ps = [] := by
  refine List.flatMap_eq_nil_iff.2 fun p hp => ?_
  obtain ⟨markup, rfl⟩ := h p hp
  rfl

variable {saved : List Printed}

theorem rows_evaluation (limit : Int) (hsaved : saved ⊆ [savedLine]) :
    rows (resolutionLines found among r limit ++ noticeLines r limit ++ saved) =
      (shownEmails r.emails limit).map fun email => [email] := by
  have herrors : rows (r.errors.map fun error => .line (Text.Markup.styled "red" error)) = [] :=
    rows_lines fun p hp => by
      obtain ⟨error, -, rfl⟩ := List.mem_map.1 hp
      exact ⟨_, rfl⟩
  have hnotices : rows (noticeLines r limit) = [] := by
    refine rows_lines fun p hp => ?_
    unfold noticeLines skippedLines at hp
    rcases List.mem_append.1 hp with hrest | hskipped
    · obtain ⟨k, -, rfl⟩ := List.mem_map.1 hrest
      exact ⟨_, rfl⟩
    · split at hskipped
      · exact absurd hskipped List.not_mem_nil
      · exact ⟨_, List.mem_singleton.1 hskipped⟩
  have hlast : rows saved = [] := rows_lines fun p hp => ⟨_, List.mem_singleton.1 (hsaved hp)⟩
  rw [rows_append, rows_append, hnotices, hlast, resolutionLines, rows_append, herrors]
  simp [rows]

/-- No other line announces e-mails. -/
theorem restLine_mem_iff (limit : Int) (hsaved : saved ⊆ [savedLine]) (k : Int) :
    restLine k ∈ resolutionLines found among r limit ++ noticeLines r limit ++ saved ↔
      announcedRest? r.emails limit = some k := by
  have herror : ∀ error, restLine k ≠ .line (Text.Markup.styled "red" error) := fun error =>
    restLine_ne rfl (by decide) k
  have hskipped : restLine k ∉ skippedLines r.skipped := by
    unfold skippedLines
    split
    · exact List.not_mem_nil
    · exact fun h => restLine_ne rfl (by decide) k (List.mem_singleton.1 h)
  have hlast : restLine k ∉ saved := fun h => restLine_ne rfl (by decide) k (List.mem_singleton.1 (hsaved h))
  have hresolution : restLine k ∉ resolutionLines found among r limit := by
    unfold resolutionLines
    rw [List.mem_append, List.mem_map, List.mem_singleton]
    rintro (⟨error, -, h⟩ | h)
    · exact herror error h.symm
    · cases h
  rw [List.mem_append, List.mem_append, noticeLines, List.mem_append]
  simp only [hresolution, hskipped, hlast, false_or, or_false, List.mem_map, Option.mem_toList]
  constructor
  · rintro ⟨m, hm, h⟩
    rwa [restLine_inj.1 h] at hm
  · exact fun h => ⟨k, h, rfl⟩

theorem announces_iff {printed : List Printed} {rest : Option Int} (h : ∀ k, restLine k ∈ printed ↔ rest = some k)
    (k : Int) : Announces printed k ↔ k = rest.getD 0 := by
  cases rest with
  | some m =>
    constructor
    · rintro (hk | hnone)
      · exact (Option.some.inj ((h k).1 hk)).symm
      · exact absurd ((h m).2 rfl) (hnone m)
    · exact fun heq => .line ((h k).2 (congrArg some heq.symm))
  | none =>
    have hnone : ∀ k, restLine k ∉ printed := fun k hk => nomatch (h k).1 hk
    constructor
    · rintro (hk | -)
      · exact absurd hk (hnone k)
      · rfl
    · exact fun heq => heq ▸ .silent hnone

end

/-! ## Runs -/

section

variable [Terminal] [Wording] [Limits] [Yaml.Writer] {w opened : Workspace} {name logger : String} {given : Settings}
  {c : Catalogue} {stored : List Segment} {found : Segment} {among : List Value} {r : Resolution}

/-- An evaluation that has its contacts hands certain lines and a table to the terminal, of which the line on the
count may be missing. They are printed up to the first one that cannot be drawn. -/
theorem printed_evaluate (h : Ready w name given c stored found logger opened) {contactsPath : Option Path}
    (hamong : readContacts (contactsPath.getD given.contactsPath)
      (opened.tree.entry (contactsPath.getD given.contactsPath)) = .ok among)
    (hr : (found.resolve among ⟨c, .system, opened.now⟩).1 = .ok r) (limit : Int) (save : Bool) :
    let ran := ((Command.evaluate name contactsPath limit save).run w).1
    ∃ saved ⊆ [savedLine], let handed := resolutionLines found among r limit ++ noticeLines r limit ++ saved
      ran.printed = handed ∨ ∃ p rest, Terminal.draws p = false ∧ ran.escape = some (.undrawn p) ∧
        ran.printed ++ p :: rest = handed := by
  intro ran
  have hsaved : (if save then [savedLine] else []) ⊆ [savedLine] := by
    split
    · exact List.Subset.refl _
    · exact List.nil_subset _
  obtain ⟨-, hresolves, -⟩ := Command.run_evaluate h contactsPath limit save
  rcases ((hresolves among hamong).1 r hr).ended with ⟨-, -, hprinted, -⟩ | ⟨-, e, hescape, hhalted⟩
  · exact ⟨_, hsaved, .inl hprinted⟩
  · cases hhalted with
    | undrawn p rest he hdraws hlines => exact ⟨_, hsaved, .inr ⟨p, rest, hdraws, he ▸ hescape, hlines⟩⟩
    | unsaved hsave _ hlines =>
      subst hsave
      refine ⟨[], List.nil_subset _, .inl ?_⟩
      rw [List.append_nil]
      exact List.append_cancel_right hlines

/-- An evaluation hands tables and lines to the terminal, and they are printed up to the first one that cannot be
drawn. They show the first of the e-mails and announce one number of others, if the number can be written. Both together
are all e-mails exactly if the limit is not negative: a negative limit is taken off from what is shown, but added to
what is announced. -/
theorem Command.run_evaluate_accounts (h : Ready w name given c stored found logger opened)
    (contactsPath : Option Path) (limit : Int) (save : Bool)
    (hamong : readContacts (contactsPath.getD given.contactsPath)
      (opened.tree.entry (contactsPath.getD given.contactsPath)) = .ok among)
    (hr : (found.resolve among ⟨c, .system, opened.now⟩).1 = .ok r) :
    let ran := ((Command.evaluate name contactsPath limit save).run w).1
    ∃ saved ⊆ [savedLine], let handed := resolutionLines found among r limit ++ noticeLines r limit ++ saved
      (ran.printed = handed ∨ ∃ p rest, Terminal.draws p = false ∧ ran.escape = some (.undrawn p) ∧
        ran.printed ++ p :: rest = handed) ∧
      ∃ (shown : List String) (k : Int),
        rows handed = shown.map (fun email => [email]) ∧ shown <+: r.emails ∧
        (0 ≤ limit ∨ Integer.HasText k → ∀ k', Announces handed k' ↔ k' = k) ∧
        (shown.length + k = r.total ↔ 0 ≤ limit) ∧
        (limit < 0 → shown.length = r.total - limit.natAbs ∧ k = r.total + limit.natAbs) := by
  intro ran
  obtain ⟨saved, hsaved, hprinted⟩ := printed_evaluate h hamong hr limit save
  refine ⟨saved, hsaved, hprinted, shownEmails r.emails limit, announced r.emails limit, rows_evaluation limit hsaved,
    shownEmails_prefix _ _, fun _ k => announces_iff (restLine_mem_iff limit hsaved) k, shown_add_announced_iff _ _,
    fun hneg => ⟨?_, ?_⟩⟩
  · rw [shownEmails, if_neg (by omega), List.length_take, Resolution.total]
    omega
  · rw [announced_of_neg hneg, Resolution.total]
    omega

end

/-! ## Runs from a workspace -/

/-- The resolution that an evaluation shows, if it comes to one. -/
def resolutionFor? [Limits] (w : Workspace) (name : String) (path : Path) : Option Resolution := do
  let opened ← openedFor? w name
  let given ← w.given.toOption
  let c ← (w.catalogued given).toOption
  let stored ← (w.loading given).1.toOption
  let found ← Segment.find? stored name
  let among ← (readContacts path (opened.tree.entry path)).toOption
  (found.resolve among ⟨c, .system, opened.now⟩).1.toOption

theorem exists_resolution [Limits] {w : Workspace} {name : String} {path : Path} {r : Resolution}
     (hjournal : w.journal = .empty) (h : resolutionFor? w name path = some r) :
    ∃ given c stored found logger opened among, Ready w name given c stored found logger opened ∧
      readContacts path (opened.tree.entry path) = .ok among ∧
        (found.resolve among ⟨c, .system, opened.now⟩).1 = .ok r := by
  simp only [resolutionFor?, bind, Option.bind_eq_some_iff, toOption_eq_some] at h
  obtain ⟨opened, hopened, given', hgiven, c', hc, stored', hstored, found', hfound, among, hamong, hr⟩ := h
  obtain ⟨given, c, stored, found, logger, hready⟩ := exists_ready hjournal hopened
  obtain rfl := Except.ok.inj (hready.settings.symm.trans hgiven)
  obtain rfl := Except.ok.inj (hready.catalogue.symm.trans hc)
  obtain rfl := Except.ok.inj (hready.loaded.symm.trans hstored)
  obtain rfl := Option.some.inj (hready.addressed.symm.trans hfound)
  exact ⟨given, c, stored, found, logger, opened, among, hready, hamong, hr⟩

/-- A workspace with a static segment of two members, and with no contacts. -/
def withMembers : Workspace :=
  { withContacts "contacts.json" "[]" with
    tree := ⟨⟨"/", []⟩, [(⟨"/", ["segments.yaml"]⟩,
      "\x7bsegments: [\x7bid: s, name: Beta, type: static, members: [a@x.org, b@x.org]\x7d]\x7d"),
      (⟨"/", ["contacts.json"]⟩, "[]")], [], []⟩ }

theorem resolutionFor?_members :
    resolutionFor? withMembers "Beta" ⟨"/", ["contacts.json"]⟩ = some ⟨"s", ["a@x.org", "b@x.org"], 0, []⟩ := by
  decide +kernel

/-- One of two e-mails is shown and the other one is announced. -/
theorem Command.run_evaluate_accounts_members :
    let w := withMembers
    let path : Path := ⟨"/", ["contacts.json"]⟩
    ∃ given c stored found logger opened among r, Ready w "Beta" given c stored found logger opened ∧
      readContacts path (opened.tree.entry path) = .ok among ∧
      (found.resolve among ⟨c, .system, opened.now⟩).1 = .ok r ∧
      let ran := ((Command.evaluate "Beta" (some path) 1 false).run w).1
      ran.escape = none ∧ ∃ (shown : List String) (k : Int), rows ran.printed = shown.map (fun email => [email]) ∧
        shown <+: ["a@x.org", "b@x.org"] ∧ (∀ k', Announces ran.printed k' ↔ k' = k) ∧ shown.length + k = 2 := by
  intro w path
  have hresolution : resolutionFor? w "Beta" path = some ⟨"s", ["a@x.org", "b@x.org"], 0, []⟩ :=
    resolutionFor?_members
  obtain ⟨given, c, stored, found, logger, opened, among, hready, hamong, hr⟩ := exists_resolution rfl hresolution
  have hnone : ((Command.evaluate "Beta" (some path) 1 false).run w).1.escape.isNone = true := by decide +kernel
  have hescape := Option.isNone_iff_eq_none.1 hnone
  refine ⟨given, c, stored, found, logger, opened, among, _, hready, hamong, hr, hescape, ?_⟩
  obtain ⟨saved, -, hprinted, shown, k, hrows, hshown, hannounces, htotal, -⟩ :=
    Command.run_evaluate_accounts hready (some path) 1 false hamong hr
  rcases hprinted with hprinted | ⟨p, rest, -, hundrawn, -⟩
  · rw [hprinted]
    exact ⟨shown, k, hrows, hshown, hannounces (.inl (by decide)), htotal.2 (by decide)⟩
  · cases hescape.symm.trans hundrawn

/-- The lines that are printed outside of tables and trees. -/
def linesOf (printed : List Printed) : List String :=
  printed.filterMap fun
    | .line markup => some markup
    | _ => none

theorem mem_linesOf {printed : List Printed} {markup : String} :
    markup ∈ linesOf printed ↔ .line markup ∈ printed := by
  unfold linesOf
  rw [List.mem_filterMap]
  constructor
  · rintro ⟨p, hp, h⟩
    split at h
    · rwa [← Option.some.inj h]
    · cases h
  · exact fun h => ⟨_, h, rfl⟩

theorem announces_of_linesOf {printed : List Printed} {k : Int}
    (h : linesOf printed = [Text.Markup.styled "dim" ("... and " ++ toString k ++ " more")]) (k' : Int) :
    Announces printed k' ↔ k' = k := by
  have hrest : ∀ m, restLine m ∈ printed ↔ some k = some m := fun m => by
    rw [restLine, ← mem_linesOf, h, List.mem_singleton, ← Printed.line.injEq, Option.some.injEq, eq_comm (a := k)]
    exact restLine_inj
  exact announces_iff hrest k'

/-- An evaluation with the limit -1. -/
def negativeRun : Ending × Workspace :=
  Console.run ["segments", "evaluate", "Beta", "-f", "contacts.json", "--limit=-1"] withMembers

theorem printed_negativeRun : negativeRun.1.code = 0 ∧ rows negativeRun.1.printed = [["a@x.org"]] ∧
    linesOf negativeRun.1.printed = [Text.Markup.styled "dim" ("... and " ++ toString (3 : Int) ++ " more")] := by
  decide +kernel

/-- The last of two e-mails is not shown then, and three are announced. -/
theorem Command.not_accounts_negative :
    resolutionFor? withMembers "Beta" ⟨"/", ["contacts.json"]⟩ = some ⟨"s", ["a@x.org", "b@x.org"], 0, []⟩ ∧
      negativeRun.1.code = 0 ∧ rows negativeRun.1.printed = [["a@x.org"]] ∧
        ∀ k, Announces negativeRun.1.printed k ↔ k = 3 := by
  obtain ⟨hcode, hrows, hlines⟩ := printed_negativeRun
  exact ⟨resolutionFor?_members, hcode, hrows, announces_of_linesOf hlines⟩

end Segmentation.Console
