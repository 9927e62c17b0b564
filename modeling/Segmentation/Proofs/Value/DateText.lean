import Segmentation.Proofs.Calendar.IsoText
import Segmentation.Proofs.Text
import Segmentation.Value.Reading

/-!
# Texts of dates

* `IsDateText`: text from the first digit of a date to a last digit, which is read as it is.
* `Value.moment?_textWith`, `Value.moment?_dateText`: the text of a datetime or of a date denotes the same moment as
  the value itself.
* `Value.moment?_zuluWith`: a trailing Z says that a clock is in UTC.
* `Value.number?_of_isDateText`: no text of a date is a number.
-/

namespace Segmentation

open Calendar Integer Binary64

/-! ## Last characters -/

namespace Calendar

/-- The text, if there is any, ends in a digit. -/
def EndsInDigit (cs : List Char) : Prop :=
  ∀ c ∈ cs.getLast?, c.isDigit = true

theorem EndsInDigit.append {cs ds : List Char} (hcs : EndsInDigit cs) (hds : EndsInDigit ds) :
    EndsInDigit (cs ++ ds) := by
  intro c hc
  rw [List.getLast?_append, Option.mem_def, Option.or_eq_some_iff] at hc
  exact hc.elim (hds c) fun h => hcs c h.2

theorem EndsInDigit.cons {cs : List Char} (c : Char) (hne : cs ≠ []) (hcs : EndsInDigit cs) :
    EndsInDigit (c :: cs) := by
  unfold EndsInDigit
  rwa [List.getLast?_cons_of_ne_nil hne]

theorem endsInDigit_padded (width n : Nat) : EndsInDigit (padded width n) :=
  fun c hc => allDigits_padLeft width n c (List.mem_of_getLast? hc)

theorem endsInDigit_cons_padded (c : Char) (width n : Nat) : EndsInDigit (c :: padded width n) :=
  (endsInDigit_padded width n).cons c (Iso.padded_ne_nil width n)

theorem endsInDigit_textList (d : Date) : EndsInDigit d.textList :=
  ((endsInDigit_padded 4 d.year).append (endsInDigit_cons_padded '-' 2 d.month)).append
    (endsInDigit_cons_padded '-' 2 d.day)

theorem endsInDigit_hoursAndMinutes (micros : Nat) : EndsInDigit (hoursAndMinutes micros) :=
  (endsInDigit_padded 2 _).append (endsInDigit_cons_padded ':' 2 _)

theorem endsInDigit_fractionText (micros : Nat) : EndsInDigit (Calendar.fractionText micros) := by
  unfold Calendar.fractionText
  dsimp only
  split_ifs
  · exact fun c hc => by cases hc
  · exact endsInDigit_cons_padded '.' 6 _

theorem endsInDigit_clockText (time : Nat) : EndsInDigit (clockText time) :=
  ((endsInDigit_hoursAndMinutes time).append (endsInDigit_cons_padded ':' 2 _)).append
    (endsInDigit_fractionText time)

theorem clockText_ne_nil (time : Nat) (rest : List Char) : clockText time ++ rest ≠ [] := by
  simp [clockText, secondsText]

theorem endsInDigit_zoneList (zone : Option Int) : EndsInDigit (Iso.zoneList zone) := by
  cases zone with
  | none => exact fun c hc => by cases hc
  | some o =>
    have hne : hoursAndMinutes o.natAbs ≠ [] := by simp [hoursAndMinutes]
    refine EndsInDigit.append ((endsInDigit_hoursAndMinutes _).cons _ hne) ?_
    split_ifs
    · exact fun c hc => by cases hc
    · exact (endsInDigit_cons_padded ':' 2 _).append (endsInDigit_fractionText _)

/-- The text of a datetime part by part. -/
theorem DateTime.toList_textWith (separator : Char) (d : DateTime) :
    (d.textWith separator).toList =
      d.date.textList ++ separator :: (clockText d.time ++ Iso.zoneList d.offset) := by
  rw [textWith, String.toList_ofList, List.append_assoc, List.cons_append]
  rfl

/-- The same clock reading in UTC. -/
def DateTime.inUtc (d : DateTime) : DateTime where
  date := d.date
  time := d.time
  offset := some 0
  time_lt := d.time_lt
  offset_lt := by simp [microsPerDay]

/-- The text of a datetime in UTC with a trailing Z. -/
def DateTime.zuluWith (separator : Char) (d : DateTime) : String :=
  String.ofList (d.date.textList ++ separator :: clockText d.time ++ ['Z'])

end Calendar

/-! ## Moments -/

/-- The text starts with a date and ends in a digit. -/
def IsDateText (s : String) : Prop :=
  (∃ (d : Date) (rest : List Char), s.toList = d.textList ++ rest) ∧ EndsInDigit s.toList

theorem isDateText_text (d : Date) : IsDateText d.text := by
  have htext : d.text.toList = d.textList := String.toList_ofList
  unfold IsDateText
  rw [htext]
  exact ⟨⟨d, [], (List.append_nil _).symm⟩, endsInDigit_textList d⟩

theorem isDateText_textWith (d : DateTime) (separator : Char) : IsDateText (d.textWith separator) := by
  unfold IsDateText
  rw [d.toList_textWith]
  exact ⟨⟨d.date, _, rfl⟩, (endsInDigit_textList d.date).append
    (((endsInDigit_clockText d.time).append (endsInDigit_zoneList d.offset)).cons separator (clockText_ne_nil _ _))⟩

theorem Text.isBlank_of_isDigit {c : Char} (h : c.isDigit = true) : Text.isBlank c = false := by
  have hall : ∀ c ∈ Text.numberChars, Text.isBlank c = false := forall_mem_of_all (by decide)
  exact hall c (Text.mem_numberChars_of_isDigit h)

/-- No blank is in front of a date. -/
theorem isBlank_head (d : Date) (rest : List Char) : ∀ c ∈ (d.textList ++ rest).head?, Text.isBlank c = false := by
  intro c hc
  rw [Iso.textList_append, List.head?_append_of_ne_nil _ (Iso.padded_ne_nil 4 d.year)] at hc
  exact Text.isBlank_of_isDigit (allDigits_padLeft 4 d.year c (List.mem_of_head? hc))

theorem IsDateText.trimList {s : String} (h : IsDateText s) : Text.trimList Text.isBlank s.toList = s.toList := by
  obtain ⟨⟨d, rest, hs⟩, hend⟩ := h
  refine Text.trimList_eq_self ?_ fun c hc => Text.isBlank_of_isDigit (hend c hc)
  rw [hs]
  exact isBlank_head d rest

namespace Value

/-- Such a text is read as it is. -/
theorem moment?_of_isDateText {s : String} (h : IsDateText s) :
    (text s).moment? = (Iso.dateTimeList? s.toList).map DateTime.inUtcIfNaive := by
  have hz : s.toList.getLast? ≠ some 'Z' := fun hz => absurd (h.2 'Z' hz) (by decide)
  rw [moment?, h.trimList, withoutTrailingZ, if_neg hz]

/-- The text of a date denotes its midnight. -/
theorem moment?_dateText (d : Date) : (text d.text).moment? = (date d).moment? := by
  have htext : d.text.toList = d.textList := String.toList_ofList
  rw [moment?_of_isDateText (isDateText_text d), htext, Iso.dateTimeList?_textList]
  rfl

/-- The text of a datetime, with any separator in ASCII, denotes the moment of the datetime. -/
theorem moment?_textWith (d : DateTime) {separator : Char} (hseparator : separator.toNat < 0x80) :
    (text (d.textWith separator)).moment? = (datetime d).moment? := by
  rw [moment?_of_isDateText (isDateText_textWith d separator), d.toList_textWith,
    Iso.dateTimeList?_isoList d hseparator]
  rfl

/-- The text of a clock reading with a trailing Z denotes the time in UTC. -/
theorem moment?_zuluWith (d : DateTime) {separator : Char} (hseparator : separator.toNat < 0x80) :
    (text (d.zuluWith separator)).moment? = some d.inUtc := by
  let body := d.date.textList ++ separator :: clockText d.time
  have hlist : (d.zuluWith separator).toList = body ++ ['Z'] := String.toList_ofList
  have hfirst : ∀ c ∈ (body ++ ['Z']).head?, Text.isBlank c = false := by
    rw [List.append_assoc]
    exact isBlank_head d.date _
  have hlast : ∀ c ∈ (body ++ ['Z']).getLast?, Text.isBlank c = false := by
    rw [List.getLast?_concat]
    rintro c ⟨rfl⟩
    decide
  -- The letter is replaced by a distance of zero, as it is written for a clock in UTC.
  have hutc : withoutTrailingZ (body ++ ['Z']) =
      d.inUtc.date.textList ++ separator :: (clockText d.inUtc.time ++ Iso.zoneList d.inUtc.offset) := by
    have hzone : Iso.zoneList (some 0) = "+00:00".toList := by decide
    rw [withoutTrailingZ, if_pos List.getLast?_concat, List.dropLast_concat, ← hzone, List.append_assoc,
      List.cons_append]
    rfl
  rw [moment?, hlist, Text.trimList_eq_self hfirst hlast, hutc, Iso.dateTimeList?_isoList d.inUtc hseparator]
  rfl

end Value

/-! ## Texts of dates are no numbers -/

/-- Digits stay when underscores are taken out of a text. -/
theorem Integer.withoutUnderscores?_append {ds : List Char} (hds : AllDigits ds) (afterDigit : Bool) (cs : List Char) :
    ∃ afterDigits, Integer.withoutUnderscores? afterDigit (ds ++ cs) =
      (Integer.withoutUnderscores? afterDigits cs).map (ds ++ ·) := by
  induction ds generalizing afterDigit with
  | nil => exact ⟨afterDigit, by simp⟩
  | cons d ds ih =>
    rw [allDigits_cons] at hds
    obtain ⟨afterDigits, h⟩ := ih hds.2 d.isDigit
    have hd : d ≠ '_' := by
      rintro rfl
      exact absurd hds.1 (by decide)
    refine ⟨afterDigits, ?_⟩
    rw [List.cons_append, Integer.withoutUnderscores?.eq_def]
    simp only [h, Option.map_map, Function.comp_def, List.cons_append]

/-- A decimal does not go on with a hyphen. -/
theorem Binary64.DecimalParts.ofList?_hyphen {ds : List Char} (hds : AllDigits ds) (cs : List Char) :
    DecimalParts.ofList? (ds ++ '-' :: cs) = none := by
  have hnext : NoDigitNext ('-' :: cs) := by
    rintro c ⟨rfl⟩
    decide
  unfold DecimalParts.ofList?
  rw [takeWhile_digits hds hnext, dropWhile_digits hds hnext]
  simp [exponentOf?]

/-- A text in which a hyphen follows the first digits is no number. -/
theorem Binary64.ofText?_hyphen {s : String} {ds cs : List Char} (hds : AllDigits ds) (hne : ds ≠ [])
    (hs : Text.trimList Text.isBlank s.toList = ds ++ '-' :: cs) : Binary64.ofText? s = none := by
  have hascii : Text.asciiDigits (ds ++ '-' :: cs) = ds ++ '-' :: Text.asciiDigits cs := by
    have hhyphen : Text.asciiDigits ['-'] = ['-'] := by decide +kernel
    have happend : ∀ xs ys, Text.asciiDigits (xs ++ ys) = Text.asciiDigits xs ++ Text.asciiDigits ys :=
      fun xs ys => List.map_append
    rw [← List.singleton_append, happend, happend, (Text.onlyNumberChars_of_allDigits hds).asciiDigits,
      hhyphen]
    rfl
  obtain ⟨afterDigits, hmarked⟩ := Integer.withoutUnderscores?_append hds false ('-' :: Text.asciiDigits cs)
  have hhyphen : Integer.withoutUnderscores? afterDigits ('-' :: Text.asciiDigits cs) =
      (Integer.withoutUnderscores? false (Text.asciiDigits cs)).map ('-' :: ·) := by
    rw [Integer.withoutUnderscores?.eq_def]
    rfl
  rw [Binary64.ofText?, hs, hascii, hmarked, hhyphen]
  cases Integer.withoutUnderscores? false (Text.asciiDigits cs) with
  | none => rfl
  | some rest =>
    have hread := Binary64.ofSigned?_signText false ((hds.startsWithDigit hne).append ('-' :: rest))
    rw [DecimalParts.ofList?_hyphen hds] at hread
    exact hread

/-- So no text of a date is a number. -/
theorem Value.number?_of_isDateText {s : String} (h : IsDateText s) : (text s).number? = .ok none := by
  obtain ⟨d, rest, hs⟩ := h.1
  have hparts : Text.trimList Text.isBlank (Text.trim s).toList =
      padded 4 d.year ++ '-' :: (padded 2 d.month ++ '-' :: (padded 2 d.day ++ rest)) := by
    rw [Text.trim, String.toList_ofList, h.trimList, h.trimList, hs, Iso.textList_append]
  have hnone : Binary64.ofText? (Text.trim s) = none :=
    Binary64.ofText?_hyphen (allDigits_padLeft 4 d.year) (Iso.padded_ne_nil 4 d.year) hparts
  rw [number?, hnone]
  rfl

end Segmentation
