import Segmentation.Proofs.Segment.RoundTrip
import Segmentation.Proofs.Segment.Validity
import Segmentation.Proofs.Yaml.RoundTrip
import Segmentation.Storage.Segments

/-!
# Files of segments and their layout

* `Yaml.Keeps`, `KeepsSegments`: a writer keeps data whose text is read as the data.
* `ofText_print_segments`: canonical text is read as the data of segments.
* `readSegments_text`: a file with the text of segments gives these segments, and no identifier is drawn.
* `SegmentLayout`: what a document says about segments, by the layout that such a file should have.
* `ReadsAs`: what should come of it: the segments, the problems of the first entry that is none, or the fault.
* `checkSegments_readsAs`: the entries of a list are read as segments, one after the other.
* `Overlooked`: a document in the wrong layout that stands for nothing where it goes wrong.
* `segmentItems_layout`, `segmentItems_overlooked`: the items are those of the layout, unless that is overlooked.
* `readSegments_layout`: so a file is read by its layout exactly if nothing is overlooked in it, and else it
  passes for one without segments.
-/

namespace Segmentation

/-- The writer gives the data a text, and this is read as the data. -/
def Yaml.Keeps [Yaml.Writer] (j : Json) : Prop :=
  ∃ text, Writer.text j = .ok text ∧ ofText text = .ok j.toValue

namespace Storage

open Calendar

theorem Entry.text_eq_ok {found : Entry} {s : String} : found.text = .ok s ↔ found = .file s := by
  cases found <;> simp [Entry.text]

/-! ## Segments written and read again -/

section

variable {segments : List Segment}

theorem readable_segmentsDocument (h : ∀ s ∈ segments, Json.Readable .plain s.encode) :
    Json.Readable .plain (segmentsDocument segments) :=
  ⟨by simp, (Json.allReadable_map_iff fun _ _ => Iff.rfl).2 h, trivial⟩

/-- The document of segments is read from its canonical text if the numbers in it can be read back. -/
theorem ofText_print_segments (h : ∀ s ∈ segments, Json.Readable .plain s.encode) :
    Yaml.ofText (Yaml.print (segmentsDocument segments)) = .ok (segmentsDocument segments).toValue := by
  have hitems : Yaml.AllSimpleKeys (segments.map Segment.encode) :=
    Yaml.allSimpleKeys_map fun s _ => s.hasSimpleKeys_encode
  have hkeys : Yaml.HasSimpleKeys (segmentsDocument segments) :=
    Yaml.membersSimpleKeys_of_partNames (by simp [partNames, Yaml.HasSimpleKeys, hitems])
  exact Yaml.ofText_print (readable_segmentsDocument h) hkeys

variable [Limits]

theorem checkSegments_encode (hs : ∀ s ∈ segments, s.Storable) (now : Calendar.DateTime) :
    checkSegments now (Json.toValues (segments.map Segment.encode)) = pure (.ok segments) := by
  induction segments with
  | nil => rfl
  | cons s segments ih =>
    rw [List.forall_mem_cons] at hs
    simp only [List.map_cons, Json.toValues, checkSegments, Segment.check_encode hs.1, ih hs.2, pure_bind]
    rfl

theorem segmentsOf_document (hs : ∀ s ∈ segments, s.Storable) (now : Calendar.DateTime) :
    segmentsOf now (segmentsDocument segments).toValue = pure (.ok segments) := by
  have hitems : segmentItems (segmentsDocument segments).toValue =
      .ok (Json.toValues (segments.map Segment.encode)) := by
    cases segments <;> rfl
  simp only [segmentsOf, hitems, checkSegments_encode hs, pure_bind]
  rfl

theorem readSegments_of_ofYaml {s : String} {document : Value} (h : ofYaml s = .ok document)
    (now : Calendar.DateTime) : readSegments now (.file s) = segmentsOf now document := by
  simp only [readSegments, Entry.exists?, Entry.text, Except.bind, h]
  rfl

/-- Where no text can be had, there are no segments, or it is said why. -/
theorem readSegments_of_error {found : Entry} {fault : Fault} (h : found.text = .error fault)
    (now : Calendar.DateTime) :
    readSegments now found = pure (.ok []) ∨ readSegments now found = pure (.error fault) := by
  unfold readSegments
  cases found.exists? with
  | false => exact .inl rfl
  | true =>
    refine .inr ?_
    rw [h]
    rfl

variable [Yaml.Writer]

/-- A writer that keeps their document gives segments a text that is read as the document. -/
theorem exists_segmentsText (hs : ∀ s ∈ segments, s.Storable) (hkeeps : Yaml.Keeps (segmentsDocument segments)) :
    ∃ text, segmentsText segments = .ok text ∧ ofYaml text = .ok (segmentsDocument segments).toValue := by
  obtain ⟨text, htext, hread⟩ := hkeeps
  have hshallow : segments.any (·.isTooDeep) = false :=
    List.any_eq_false.2 fun s hmem => Bool.eq_false_iff.1 (hs s hmem).not_isTooDeep
  refine ⟨text, ?_, ?_⟩
  · rw [segmentsText, segmentsData, hshallow]
    exact htext
  · rw [ofYaml, hread]
    rfl

/-- The writer keeps the documents of plain segments. -/
def KeepsSegments : Prop :=
  ∀ segments : List Segment, (∀ s ∈ segments, s.IsPlain) → Yaml.Keeps (segmentsDocument segments)

/-- A file with the text of segments gives these segments, and no identifier is drawn. -/
theorem readSegments_text {text : String} (hs : ∀ s ∈ segments, s.Storable)
    (hkeeps : Yaml.Keeps (segmentsDocument segments)) (htext : segmentsText segments = .ok text)
    (now : Calendar.DateTime) : readSegments now (.file text) = pure (.ok segments) := by
  obtain ⟨text', htext', hread⟩ := exists_segmentsText hs hkeeps
  cases htext.symm.trans htext'
  rw [readSegments_of_ofYaml hread, segmentsOf_document hs]

end

/-! ## What a document says -/

/-- The items of the entry under `segments`, if there is one: no entry and an empty one have none, and only a
list has any. -/
inductive EntryLayout : Option Value → Except WrongLayout (List Value) → Prop where
  | absent : EntryLayout none (.ok [])
  | blank : EntryLayout (some .null) (.ok [])
  | listed (items : List Value) : EntryLayout (some (.collection .list items)) (.ok items)
  | noList {v : Value} (hnull : v ≠ .null) (hlist : ∀ items, v ≠ .collection .list items) :
      EntryLayout (some v) (.error .segmentsInNoList)

/-- The items that a document lists under `segments`, or what is wrong with its layout: an empty document lists
none, and only a mapping lists any. -/
inductive SegmentLayout : Value → Except WrongLayout (List Value) → Prop where
  | empty : SegmentLayout .null (.ok [])
  | mapping {entries : List (Value × Value)} {asked : Except WrongLayout (List Value)}
      (h : EntryLayout (Value.valueUnder? entries "segments") asked) : SegmentLayout (.mapping entries) asked
  | noMapping {document : Value} (hnull : document ≠ .null) (hmapping : ∀ entries, document ≠ .mapping entries) :
      SegmentLayout document (.error .segmentsInNoMapping)

variable {asked asked' : Except WrongLayout (List Value)}

theorem EntryLayout.eq {entry : Option Value} (h : EntryLayout entry asked) (h' : EntryLayout entry asked') :
    asked' = asked := by
  cases h with
  | absent =>
    cases h'
    rfl
  | blank =>
    cases h' with
    | blank => rfl
    | noList hnull _ => exact absurd rfl hnull
  | listed items =>
    cases h' with
    | listed _ => rfl
    | noList _ hlist => exact absurd rfl (hlist items)
  | noList hnull hlist =>
    cases h' with
    | blank => exact absurd rfl hnull
    | listed items => exact absurd rfl (hlist items)
    | noList _ _ => rfl

/-- A document has at most one layout. -/
theorem SegmentLayout.eq {document : Value} (h : SegmentLayout document asked)
    (h' : SegmentLayout document asked') : asked' = asked := by
  cases h with
  | empty =>
    cases h' with
    | empty => rfl
    | noMapping hnull _ => exact absurd rfl hnull
  | mapping h =>
    cases h' with
    | mapping h' => exact h.eq h'
    | noMapping _ hmapping => exact absurd rfl (hmapping _)
  | noMapping hnull hmapping =>
    cases h' with
    | empty => exact absurd rfl hnull
    | mapping _ => exact absurd rfl (hmapping _)
    | noMapping _ _ => rfl

/-! ## What is overlooked -/

/-- The value is no list, but stands for nothing: it is false, zero, or empty. -/
inductive OverlookedEntry : Option Value → Prop where
  | intro {v : Value} (hnull : v ≠ .null) (hlist : ∀ items, v ≠ .collection .list items)
      (hnothing : v.isSubstantial = false) : OverlookedEntry (some v)

/-- The document is in the wrong layout, but what stands in the wrong place stands for nothing. -/
inductive Overlooked : Value → Prop where
  | entry {entries : List (Value × Value)} (h : OverlookedEntry (Value.valueUnder? entries "segments")) :
      Overlooked (.mapping entries)
  | document {document : Value} (hnull : document ≠ .null) (hmapping : ∀ entries, document ≠ .mapping entries)
      (hnothing : document.isSubstantial = false) : Overlooked document

/-- The items of an entry that a mapping has or not. -/
def entryItems : Option Value → Except WrongLayout (List Value)
  | none => .ok []
  | some v =>
    if !v.isSubstantial then .ok []
    else match v with
      | .collection .list items => .ok items
      | _ => .error .segmentsInNoList

theorem segmentItems_mapping (entries : List (Value × Value)) :
    segmentItems (.mapping entries) = entryItems (Value.valueUnder? entries "segments") := by
  cases entries with
  | nil => rfl
  | cons e es =>
    simp only [segmentItems, Value.isSubstantial, List.isEmpty_cons, Bool.not_false, Bool.not_true,
      Bool.false_eq_true, if_false]
    cases Value.valueUnder? (e :: es) "segments" with
    | none => rfl
    | some v => rfl

theorem entryItems_of_noList {v : Value} (hnull : v ≠ .null) (hlist : ∀ items, v ≠ .collection .list items) :
    entryItems (some v) = if v.isSubstantial then .error .segmentsInNoList else .ok [] := by
  unfold entryItems
  dsimp only
  cases hnothing : v.isSubstantial with
  | false => rfl
  | true =>
    split
    · cases ‹(!true) = true›
    · split
      · exact absurd rfl (hlist _)
      · rfl

theorem segmentItems_of_noMapping {document : Value} (hnull : document ≠ .null)
    (hmapping : ∀ entries, document ≠ .mapping entries) :
    segmentItems document = if document.isSubstantial then .error .segmentsInNoMapping else .ok [] := by
  unfold segmentItems
  cases hnothing : document.isSubstantial with
  | false => rfl
  | true =>
    split
    · cases ‹(!true) = true›
    · split
      · exact absurd rfl (hmapping _)
      · rfl

/-- An entry that is not overlooked has the items of its layout. -/
theorem entryItems_layout {entry : Option Value} (h : ¬ OverlookedEntry entry) :
    EntryLayout entry (entryItems entry) := by
  cases entry with
  | none => exact .absent
  | some v =>
    by_cases hnull : v = .null
    · subst hnull
      exact .blank
    by_cases hlist : ∃ items, v = .collection .list items
    · obtain ⟨items, rfl⟩ := hlist
      cases items with
      | nil => exact .listed []
      | cons u items => exact .listed (u :: items)
    · rw [not_exists] at hlist
      have hsubstantial : v.isSubstantial = true := by
        by_contra hnothing
        exact h (.intro hnull hlist (Bool.eq_false_iff.2 hnothing))
      rw [entryItems_of_noList hnull hlist, if_pos hsubstantial]
      exact .noList hnull hlist

/-- A document in which nothing is overlooked has the items of its layout. -/
theorem segmentItems_layout {document : Value} (h : ¬ Overlooked document) :
    SegmentLayout document (segmentItems document) := by
  by_cases hnull : document = .null
  · subst hnull
    exact .empty
  by_cases hmapping : ∃ entries, document = .mapping entries
  · obtain ⟨entries, rfl⟩ := hmapping
    rw [segmentItems_mapping]
    exact .mapping (entryItems_layout fun hentry => h (.entry hentry))
  · rw [not_exists] at hmapping
    have hsubstantial : document.isSubstantial = true := by
      by_contra hnothing
      exact h (.document hnull hmapping (Bool.eq_false_iff.2 hnothing))
    rw [segmentItems_of_noMapping hnull hmapping, if_pos hsubstantial]
    exact .noMapping hnull hmapping

/-- What is overlooked passes for no items, although the layout is wrong. -/
theorem segmentItems_overlooked {document : Value} (h : Overlooked document) :
    segmentItems document = .ok [] ∧ ∃ wrong, SegmentLayout document (.error wrong) := by
  cases h with
  | entry h =>
    rw [segmentItems_mapping]
    generalize hfound : Value.valueUnder? _ "segments" = found at h ⊢
    cases h with
    | intro hnull hlist hnothing =>
      have hentry := EntryLayout.noList hnull hlist
      rw [← hfound] at hentry
      refine ⟨?_, _, .mapping hentry⟩
      rw [entryItems_of_noList hnull hlist, hnothing]
      rfl
  | document hnull hmapping hnothing =>
    refine ⟨?_, _, .noMapping hnull hmapping⟩
    rw [segmentItems_of_noMapping hnull hmapping, hnothing]
    rfl

/-! ## Files -/

section

variable [Limits]

/-- What comes of items: a segment for each of them, in order, or the problems of the first one that is no
segment; and of a wrong layout the fault that names it. -/
inductive ReadsAs (now : DateTime) : Except WrongLayout (List Value) → Except Fault (List Segment) → Prop where
  | segments {items : List Value} {segments : List Segment}
      (h : List.Forall₂ (fun v s => ∃ supply, ((Segment.check now v).run supply).1 = .ok s) items segments) :
      ReadsAs now (.ok items) (.ok segments)
  | problems (before : List Value) {v : Value} (after : List Value) {ps : List Problem}
      (hbefore : ∀ u ∈ before, u.IsSegment) (h : v.HasProblems ps) :
      ReadsAs now (.ok (before ++ v :: after)) (.error (.problems ps))
  | wrong (layout : WrongLayout) : ReadsAs now (.error layout) (.error (.layout layout))

theorem checkSegments_cons (now : DateTime) (v : Value) (items : List Value) (supply : IdSupply) :
    ((checkSegments now (v :: items)).run supply).1 =
      match ((Segment.check now v).run supply).1 with
      | .error ps => .error ps
      | .ok s => ((checkSegments now items).run ((Segment.check now v).run supply).2).1.map (s :: ·) := by
  rw [checkSegments, StateT.run_bind]
  cases hchecked : (Segment.check now v).run supply with
  | mk checked supply' =>
    cases checked with
    | error ps => rfl
    | ok s => rfl

/-- The entries of a list are read as segments, up to the first one that is none. -/
theorem checkSegments_readsAs (now : DateTime) (items : List Value) (supply : IdSupply) :
    ReadsAs now (.ok items) (((checkSegments now items).run supply).1.mapError .problems) := by
  induction items generalizing supply with
  | nil => exact .segments .nil
  | cons v items ih =>
    rw [checkSegments_cons]
    cases hchecked : ((Segment.check now v).run supply).1 with
    | error ps => exact .problems [] items nofun ⟨now, supply, hchecked⟩
    | ok s =>
      dsimp only
      generalize ((Segment.check now v).run supply).2 = rest
      have hrest := ih rest
      cases hsegments : ((checkSegments now items).run rest).1 with
      | ok segments =>
        rw [hsegments] at hrest
        cases hrest with
        | segments h => exact .segments (.cons ⟨supply, hchecked⟩ h)
      | error ps =>
        rw [hsegments] at hrest
        cases hrest with
        | problems before after hbefore h =>
          have hv : v.IsSegment := ⟨now, supply, s, hchecked⟩
          exact .problems (v :: before) after (List.forall_mem_cons.2 ⟨hv, hbefore⟩) h

theorem run_segmentsOf (now : DateTime) (document : Value) (supply : IdSupply) :
    ((segmentsOf now document).run supply).1 =
      match segmentItems document with
      | .error wrong => .error (.layout wrong)
      | .ok items => ((checkSegments now items).run supply).1.mapError .problems := by
  unfold segmentsOf
  cases segmentItems document with
  | error wrong => rfl
  | ok items => rfl

/-- What a document gives is what comes of its items. -/
theorem segmentsOf_readsAs (now : DateTime) (document : Value) (supply : IdSupply) :
    ReadsAs now (segmentItems document) ((segmentsOf now document).run supply).1 := by
  rw [run_segmentsOf]
  cases segmentItems document with
  | error wrong => exact .wrong wrong
  | ok items => exact checkSegments_readsAs now items supply

/-- Every document has one layout. A file that holds the document is read by it, at any time and whatever
identifiers are drawn: segments for the items, one for each and in order, or the problems of the first item that
is no segment, or the fault that names the wrong layout. This is so exactly if the document is not one in the
wrong layout that stands for nothing where it goes wrong; and one that does gives no segments and no fault. -/
theorem readSegments_layout {text : String} {document : Value} (h : ofYaml text = .ok document) (now : DateTime)
    (supply : IdSupply) :
    (∃! asked, SegmentLayout document asked) ∧
      (∀ asked, SegmentLayout document asked →
        (ReadsAs now asked ((readSegments now (.file text)).run supply).1 ↔ ¬ Overlooked document)) ∧
      (Overlooked document →
        (∃ wrong, SegmentLayout document (.error wrong)) ∧
          ((readSegments now (.file text)).run supply).1 = .ok []) := by
  rw [readSegments_of_ofYaml h]
  have hread := segmentsOf_readsAs now document supply
  have hover : Overlooked document → ((segmentsOf now document).run supply).1 = .ok [] := by
    intro hover
    rw [run_segmentsOf, (segmentItems_overlooked hover).1]
    rfl
  refine ⟨?_, fun asked hasked => ⟨fun hreads hoverlooked => ?_, fun hkept => ?_⟩,
    fun hoverlooked => ⟨(segmentItems_overlooked hoverlooked).2, hover hoverlooked⟩⟩
  · by_cases hoverlooked : Overlooked document
    · obtain ⟨-, wrong, hwrong⟩ := segmentItems_overlooked hoverlooked
      exact ⟨_, hwrong, fun asked hasked => hwrong.eq hasked⟩
    · exact ⟨_, segmentItems_layout hoverlooked, fun asked hasked => (segmentItems_layout hoverlooked).eq hasked⟩
  · obtain ⟨-, wrong, hwrong⟩ := segmentItems_overlooked hoverlooked
    cases hwrong.eq hasked
    rw [hover hoverlooked] at hreads
    cases hreads
  · rw [(segmentItems_layout hkept).eq hasked]
    exact hread

end

/-- The text of a file with one segment is read by its layout. -/
theorem readSegments_layout_team :
    let team : Segment := ⟨"s", "Team", "", .static ["ana@example.com"], 1, default, default⟩
    let text := Yaml.print (segmentsDocument [team])
    let document := (segmentsDocument [team]).toValue
    (ofYaml text = .ok document ∧ SegmentLayout document (.ok [team.encode.toValue]) ∧ ¬ Overlooked document) ∧
      ReadsAs default (.ok [team.encode.toValue]) ((readSegments default (.file text)).run ⟨0⟩).1 := by
  intro team text document
  have hteam : ∀ s ∈ [team], Json.Readable .plain s.encode := by
    rw [List.forall_mem_singleton, Segment.readable_encode]
    exact ⟨nofun, Json.Dialect.admits_plain.2 (Integer.hasText_iff.2 (by decide))⟩
  have hdocument : ofYaml text = .ok document := by
    rw [ofYaml, ofText_print_segments hteam]
    rfl
  have hlayout : SegmentLayout document (.ok [team.encode.toValue]) := .mapping (.listed _)
  have hkept : ¬ Overlooked document := by
    intro h
    obtain ⟨-, wrong, hwrong⟩ := segmentItems_overlooked h
    cases hlayout.eq hwrong
  exact ⟨⟨hdocument, hlayout, hkept⟩, ((readSegments_layout hdocument default ⟨0⟩).2.1 _ hlayout).2 hkept⟩

/-- An empty list is no mapping, but a file that holds it passes for one without segments. -/
theorem not_readsAs_emptyList :
    let document : Value := .collection .list []
    ofYaml "[]" = .ok document ∧ SegmentLayout document (.error .segmentsInNoMapping) ∧
      ((readSegments default (.file "[]")).run ⟨0⟩).1 = .ok [] ∧
      ¬ ReadsAs default (.error .segmentsInNoMapping) ((readSegments default (.file "[]")).run ⟨0⟩).1 := by
  intro document
  have hread : ((readSegments default (.file "[]")).run ⟨0⟩).1 = .ok [] := rfl
  refine ⟨rfl, .noMapping nofun nofun, hread, ?_⟩
  rw [hread]
  exact nofun

end Storage

end Segmentation
