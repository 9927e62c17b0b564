import Segmentation.Proofs.Evaluation.Children
import Segmentation.Proofs.Value.Text
import Segmentation.Segment.Resolution

/-!
# What a segment resolves to

* `Segment.email?_eq_ok`: a contact has an e-mail, which has a text, or it has none.
* `Resolution.Accounts`: every contact of a list is there by the text of its e-mail, or is counted as skipped.
* `Resolution.Accounts.total`, `Resolution.Accounts.append`: nobody is lost or comes in, and lists are put together
  part by part.
* `Segment.resolve_conserves`: a resolution accounts for the contacts that the rules select.
-/

namespace Segmentation

open Calendar

/-- The e-mail of a contact is there and stands for something. -/
def Value.hasEmail (contact : Value) : Bool :=
  (contact.resolve "email").isSubstantial

/-- The e-mails that are there have a text. -/
def EmailsHaveText (contacts : List Value) : Prop :=
  ∀ contact ∈ contacts, contact.hasEmail = true → (contact.resolve "email").HasText

/-- The e-mails are the texts of those of the contacts, in their order, and those without one are counted. -/
structure Resolution.Accounts (r : Resolution) (contacts : List Value) : Prop where
  emails : r.emails.map .ok = (contacts.filter Value.hasEmail).map fun contact => (contact.resolve "email").toText
  skipped : r.skipped = contacts.countP fun contact => !contact.hasEmail

namespace Resolution.Accounts

variable {r r₁ r₂ : Resolution} {contacts more : List Value}

/-- Every contact is counted once. -/
theorem total (h : r.Accounts contacts) : r.emails.length + r.skipped = contacts.length := by
  have hlisted : r.emails.length = contacts.countP Value.hasEmail := by
    have hlength := congrArg List.length h.emails
    rwa [List.length_map, List.length_map, ← List.countP_eq_length_filter] at hlength
  rw [hlisted, h.skipped, List.length_eq_countP_add_countP Value.hasEmail]
  simp

theorem append (h : r.Accounts (contacts ++ more)) (h₁ : r₁.Accounts contacts) (h₂ : r₂.Accounts more) :
    r.emails = r₁.emails ++ r₂.emails ∧ r.skipped = r₁.skipped + r₂.skipped := by
  constructor
  · have hmap : r.emails.map (.ok : String → Except Failure String) = (r₁.emails ++ r₂.emails).map .ok := by
      rw [h.emails, List.filter_append, List.map_append, List.map_append, h₁.emails, h₂.emails]
    exact List.map_injective_iff.2 (fun _ _ => Except.ok.inj) hmap
  · rw [h.skipped, List.countP_append, h₁.skipped, h₂.skipped]

end Resolution.Accounts

namespace Segment

variable {s : Segment} {e e' : Evaluator} {contacts : List Value} {contact : Value} {r : Resolution}

theorem email?_eq_ok {email : Option String} :
    email? contact = .ok email ↔
      contact.hasEmail = true ∧ (∃ t, (contact.resolve "email").toText = .ok t ∧ some t = email) ∨
        contact.hasEmail = false ∧ none = email := by
  unfold email?
  dsimp only
  change (if contact.hasEmail = true then _ else _) = _ ↔ _
  split_ifs with hemail
  · simp [map_eq_ok, hemail]
  · simp [hemail]

theorem exists_emailsOf (h : EmailsHaveText contacts) : ∃ found, emailsOf contacts = .ok found := by
  refine exists_mapM_eq_ok fun contact hmem => ?_
  cases hemail : contact.hasEmail with
  | true =>
    obtain ⟨t, ht⟩ := h contact hmem hemail
    exact ⟨some t, email?_eq_ok.2 (.inl ⟨hemail, t, ht, rfl⟩)⟩
  | false => exact ⟨none, email?_eq_ok.2 (.inr ⟨hemail, rfl⟩)⟩

/-- What is found is sorted into e-mails and skipped contacts. -/
theorem accounts_of_emailsOf {found : List (Option String)} (h : emailsOf contacts = .ok found) (id : String)
    (errors : List String) :
    (⟨id, found.filterMap (fun e => e), found.countP (·.isNone), errors⟩ : Resolution).Accounts contacts := by
  induction contacts generalizing found with
  | nil =>
    cases h
    exact ⟨rfl, rfl⟩
  | cons contact contacts ih =>
    unfold emailsOf at h
    rw [List.mapM_cons] at h
    obtain ⟨email, hemail, h⟩ := bind_eq_ok.1 h
    obtain ⟨rest, hrest, h⟩ := bind_eq_ok.1 h
    cases h
    obtain ⟨hemails, hskipped⟩ := ih hrest
    rcases email?_eq_ok.1 hemail with ⟨hthere, t, ht, rfl⟩ | ⟨hmissing, rfl⟩
    · constructor
      · simpa [hthere, ht] using hemails
      · simpa [hthere] using hskipped
    · constructor
      · simpa [hmissing] using hemails
      · simpa [hmissing] using hskipped

/-! ## The three kinds of segments -/

theorem resolve_static (hs : s.type = .static) (contacts : List Value) (e : Evaluator) :
    s.resolve contacts e = (.ok ⟨s.id, s.members, 0, []⟩, e) := by
  rw [resolve, membership_eq_static hs]

theorem resolve_noRules (hs : s.type = .dynamic) (hrules : s.rules = none) (contacts : List Value)
    (e : Evaluator) : s.resolve contacts e = (.ok ⟨s.id, [], 0, [s.noRules]⟩, e) := by
  rw [resolve, membership_eq_dynamic hs, hrules]

theorem resolve_rules {g : Group} (hrules : s.rules = some g) (contacts : List Value) (e : Evaluator) :
    (s.resolve contacts e).1 = (emailsOf (e.filter g contacts).1).map fun emails =>
      ⟨s.id, emails.filterMap (fun e => e), emails.countP (·.isNone), []⟩ := by
  rw [resolve, membership_eq_dynamic (type_eq_dynamic hrules), hrules]

/-- A dynamic segment with rules resolves, and accounts for the contacts that the rules select. -/
theorem exists_resolve {g : Group} (hrules : s.rules = some g) (h : EmailsHaveText contacts) (e : Evaluator) :
    ∃ r, (s.resolve contacts e).1 = .ok r ∧ r.segmentId = s.id ∧ r.errors = [] ∧
      r.Accounts (e.filter g contacts).1 := by
  have hselected : EmailsHaveText (e.filter g contacts).1 :=
    fun contact hmem => h contact (List.mem_of_mem_filter hmem)
  obtain ⟨found, hfound⟩ := exists_emailsOf hselected
  refine ⟨_, ?_, rfl, rfl, accounts_of_emailsOf hfound s.id []⟩
  rw [resolve_rules hrules, hfound]
  rfl

/-- All that a resolution depends on of an evaluator is the time that it is about to see. -/
theorem resolve_congr (h : e.SameReading e') (s : Segment) (contacts : List Value) :
    (s.resolve contacts e').1 = (s.resolve contacts e).1 := by
  unfold resolve
  cases s.membership with
  | static members => rfl
  | dynamic rules =>
    cases rules with
    | none => rfl
    | some g =>
      have hselected : (e'.filter g contacts).1 = (e.filter g contacts).1 := by
        rw [h.filter_eq]
        rfl
      dsimp only
      rw [hselected]

/-- A static segment resolves to its members, whatever the contacts are. A dynamic one with rules resolves to the texts
of the e-mails of the contacts that its rules hold for, in their order, and counts those of them that have none: the
two together are as many as the evaluator counts. Without rules there are no e-mails, and one error. In each case the
total is the number of the e-mails, the e-mails of the segment are these, and the total is all that is stored besides
the time of the change. The resolution of two lists of contacts is put together of those of each. All readings of the
clock are of one time, whatever evaluator makes them. -/
theorem resolve_conserves (s : Segment) (e : Evaluator) :
    (s.type = .static → ∀ contacts, (s.resolve contacts e).1 = .ok ⟨s.id, s.members, 0, []⟩) ∧
    (∀ g, s.rules = some g → ∀ contacts, EmailsHaveText contacts →
      ∃ r, (s.resolve contacts e).1 = .ok r ∧ r.segmentId = s.id ∧ r.errors = [] ∧
        ∀ e', e.SameReading e' → r.Accounts (contacts.filter fun contact => (e'.evaluate g contact).1) ∧
          r.emails.length + r.skipped = (e'.count g contacts).1) ∧
    (s.type = .dynamic → s.rules = none → ∀ contacts, (s.resolve contacts e).1 =
      .ok ⟨s.id, [], 0, ["Dynamic segment '" ++ s.name ++ "' has no rules"]⟩) ∧
    (∀ contacts r, (s.resolve contacts e).1 = .ok r → r.total = r.emails.length ∧
      (∀ e', e.SameReading e' → (s.emails contacts e').1 = .ok r.emails) ∧
        ∀ now, s.withContactCount r.total now = { s with contactCount := r.emails.length, updatedAt := now }) ∧
    (s.type = .dynamic → ∀ contacts more, EmailsHaveText (contacts ++ more) →
      ∀ e₁ e₂, e.SameReading e₁ → e.SameReading e₂ →
        ∃ r r₁ r₂, (s.resolve (contacts ++ more) e).1 = .ok r ∧ (s.resolve contacts e₁).1 = .ok r₁ ∧
          (s.resolve more e₂).1 = .ok r₂ ∧ r.emails = r₁.emails ++ r₂.emails ∧
            r.skipped = r₁.skipped + r₂.skipped) := by
  refine ⟨fun hs contacts => ?_, fun g hrules contacts h => ?_, fun hs hrules contacts => ?_,
    fun contacts r hr => ⟨rfl, fun e' he' => ?_, fun now => rfl⟩, fun hs contacts more h e₁ e₂ h₁ h₂ => ?_⟩
  · rw [resolve_static hs]
  · obtain ⟨r, hr, hid, herrors, haccounts⟩ := exists_resolve hrules h e
    refine ⟨r, hr, hid, herrors, fun e' he' => ?_⟩
    have hselected : (e.filter g contacts).1 = contacts.filter fun contact => (e'.evaluate g contact).1 := by
      simp only [he'.evaluate_eq]
      rfl
    rw [← hselected]
    refine ⟨haccounts, ?_⟩
    rw [haccounts.total, Evaluator.count_eq_length, he'.filter_eq]
    rfl
  · rw [resolve_noRules hs hrules]
    rfl
  · change (s.resolve contacts e').1.map _ = _
    rw [resolve_congr he', hr]
    rfl
  · rw [resolve_congr h₁, resolve_congr h₂]
    cases hrules : s.rules with
    | none =>
      refine ⟨_, _, _, congrArg Prod.fst (resolve_noRules hs hrules _ e),
        congrArg Prod.fst (resolve_noRules hs hrules _ e), congrArg Prod.fst (resolve_noRules hs hrules _ e), rfl, rfl⟩
    | some g =>
      obtain ⟨hcontacts, hmore⟩ := List.forall_mem_append.1 h
      obtain ⟨r, hr, -, -, haccounts⟩ := exists_resolve hrules h e
      obtain ⟨r₁, hr₁, -, -, haccounts₁⟩ := exists_resolve hrules hcontacts e
      obtain ⟨r₂, hr₂, -, -, haccounts₂⟩ := exists_resolve hrules hmore e
      have happend : (e.filter g (contacts ++ more)).1 = (e.filter g contacts).1 ++ (e.filter g more).1 :=
        List.filter_append _ _
      rw [happend] at haccounts
      exact ⟨r, r₁, r₂, hr, hr₁, hr₂, haccounts.append haccounts₁ haccounts₂⟩

/-- Of seven contacts the rules select six, three with an e-mail, of which one is a number and one a mapping, and three
with a missing, an empty or a false one. Both evaluators see one time, though their clocks differ later. -/
theorem resolve_conserves_mixed :
    let time : DateTime := .midnight { year := 2026, month := 10, day := 17 }
    let e : Evaluator := ⟨.contact, .ofAnswers [.datetime time, .null], default⟩
    let e' : Evaluator := ⟨.contact, .fixed time, default⟩
    let g : Group := ⟨"g", .and, [⟨"c", "status", .known .equals, .text "active", .null⟩], []⟩
    let s : Segment := ⟨"s", "Active", "", .dynamic (some g), 0, default, default⟩
    let contact (status : String) (email : Value) : Value := .ofFields [("status", .text status), ("email", email)]
    let contacts := [contact "active" (.text "ann@x.org"), contact "active" .null, contact "active" (.int 7),
      contact "inactive" (.text "bob@x.org")]
    let more := [.record [("status", .text "active"), ("email", .ofFields [("work", .text "cy@x.org")])],
      contact "active" (.text ""), contact "active" (.bool false)]
    (s.type = .dynamic ∧ s.rules = some g ∧ EmailsHaveText (contacts ++ more) ∧ e.SameReading e') ∧
      ∃ r r₁ r₂, (s.resolve (contacts ++ more) e).1 = .ok r ∧ r.emails.length + r.skipped = 6 ∧
        (s.resolve contacts e).1 = .ok r₁ ∧ (s.resolve more e').1 = .ok r₂ ∧ r.emails = r₁.emails ++ r₂.emails ∧
        r.emails = ["ann@x.org", "7", "\x7b'work': 'cy@x.org'\x7d"] := by
  intro time e e' g s contact contacts more
  have hsame : e.SameReading e' := ⟨rfl, rfl⟩
  have htexts : EmailsHaveText (contacts ++ more) := by
    intro listed hmem _
    simp only [contacts, more, List.cons_append, List.nil_append, List.mem_cons, List.not_mem_nil, or_false] at hmem
    rcases hmem with rfl | rfl | rfl | rfl | rfl | rfl | rfl
    case inr.inr.inl => exact ⟨"7", by decide +kernel⟩
    all_goals exact ⟨_, rfl⟩
  have hcount : (e'.count g (contacts ++ more)).1 = 6 := by decide +kernel
  obtain ⟨-, hrules, -, -, hparts⟩ := resolve_conserves s e
  obtain ⟨r, hr, -, -, hcounted⟩ := hrules g rfl _ htexts
  obtain ⟨r', r₁, r₂, hr', hr₁, hr₂, hemails, -⟩ := hparts rfl contacts more htexts e e' ⟨rfl, rfl⟩ hsame
  cases hr.symm.trans hr'
  refine ⟨⟨rfl, rfl, htexts, hsame⟩, r, r₁, r₂, hr, (hcounted e' hsame).2.trans hcount, hr₁, hr₂, hemails, ?_⟩
  have hlisted := (hcounted e' hsame).1.emails
  exact List.map_injective_iff.2 (fun _ _ => Except.ok.inj) (hlisted.trans (by decide +kernel))

end Segment

end Segmentation
