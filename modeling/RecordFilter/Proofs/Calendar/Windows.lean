import RecordFilter.Proofs.Calendar.Layouts
import RecordFilter.Proofs.Calendar.Moments
import RecordFilter.Proofs.Calendar.Ranges
import RecordFilter.Proofs.Number.Digits
import RecordFilter.Proofs.Text.Ends
import RecordFilter.Proofs.Text.Lowering
import RecordFilter.Proofs.Text.Search

/-!
Windows: the time from some minutes, hours or days ago up to now.

A window has any count and any word for its unit, so that it is as long as it says, to the
microsecond. It is out of range exactly if it would begin before the calendar does: a count too large
for a duration is too large for the calendar as well.
-/

namespace RecordFilter

/-- The units that windows are counted in. -/
inductive WindowUnit
  | minute
  | hour
  | day
  deriving DecidableEq

namespace WindowUnit

/-- The microseconds of the unit. -/
def micros : WindowUnit → Nat
  | minute => 60 * 1000000
  | hour => 60 * 60 * 1000000
  | day => 24 * 60 * 60 * 1000000

/-- The words for the unit. -/
def words : WindowUnit → List Text
  | minute => ["m".toList, "min".toList, "minute".toList, "minutes".toList]
  | hour => ["h".toList, "hour".toList, "hours".toList]
  | day => ["d".toList, "day".toList, "days".toList]

/-- The text is a word for the unit in any letter case, perhaps with a further `s`. -/
def Spells (unit : WindowUnit) (t : Text) : Prop :=
  ∃ word ∈ unit.words, Text.lower t = word ∨ Text.lower t = word ++ ['s']

variable {unit : WindowUnit} {t : Text}

/-- A unit is recognised by each of its words, although some of them begin others. -/
theorem unitMicros?_of_mem_words (unit : WindowUnit) : ∀ word ∈ unit.words,
    DatePhrase.unitMicros? word = some unit.micros ∧
      DatePhrase.unitMicros? (word ++ ['s']) = some unit.micros := by
  cases unit <;> decide

theorem Spells.unitMicros? (ht : unit.Spells t) :
    DatePhrase.unitMicros? (Text.lower t) = some unit.micros := by
  obtain ⟨word, hword, hlower | hlower⟩ := ht
  · rw [hlower]
    exact (unit.unitMicros?_of_mem_words word hword).1
  · rw [hlower]
    exact (unit.unitMicros?_of_mem_words word hword).2

theorem Spells.letters (ht : unit.Spells t) :
    ∀ c ∈ Text.lower t, c.toNat < 128 ∧ ¬ Text.isBlank c := by
  have hword : ∀ word ∈ unit.words, ∀ c ∈ 's' :: word, c.toNat < 128 ∧ ¬ Text.isBlank c := by
    cases unit <;> decide
  obtain ⟨word, hmem, hlower | hlower⟩ := ht <;> rw [hlower] <;> intro c hc
  · exact hword word hmem c (List.mem_cons_of_mem _ hc)
  · rw [List.mem_append, List.mem_singleton, or_comm, ← List.mem_cons] at hc
    exact hword word hmem c hc

theorem Spells.capitalSigma_not_mem (ht : unit.Spells t) : 'Σ' ∉ t :=
  Text.capitalSigma_not_mem_of_plain fun c hc => (ht.letters c hc).1

theorem Spells.not_isBlank (ht : unit.Spells t) : ∀ c ∈ t, ¬ Text.isBlank c := fun c hc hblank =>
  (ht.letters c (Text.mem_lower_of_isBlank ht.capitalSigma_not_mem hblank hc)).2 hblank

theorem Spells.ne_nil (ht : unit.Spells t) : t ≠ [] := by
  rintro rfl
  have hunit := ht.unitMicros?
  have hnone : DatePhrase.unitMicros? (Text.lower []) = none := by decide
  rw [hnone] at hunit
  cases hunit

end WindowUnit

/-- The text says `last` and then a count and a unit, in any letter case and with any blanks between
    the count and the unit. -/
def IsWindow (text digits : Text) (unit : WindowUnit) : Prop :=
  ∃ last gap word, text = last ++ (digits ++ (gap ++ word)) ∧ Text.lower last = "last ".toList ∧
    Text.Digits digits ∧ (∀ c ∈ gap, Text.isBlank c) ∧ unit.Spells word

namespace Interval

/-- No time since the beginning of the calendar is too long for a duration. -/
private theorem exists_ofMicros?_eq_some {now : Moment} {micros : Nat}
    (hle : micros ≤ now.instant) :
    ∃ d, Duration.ofMicros? micros = some d ∧ d.micros = micros := by
  have hin : -999999999 * microsPerDay ≤ (micros : Int) ∧
      (micros : Int) < 1000000000 * microsPerDay := by
    have hend := now.inRange
    rw [Calendar.dayCount, dayMicros] at hend
    rw [microsPerDay, microsPerSecond]
    omega
  exact ⟨⟨micros, hin⟩, dif_pos hin, rfl⟩

private theorem exists_shift?_neg {now : Moment} {micros : Nat} (hle : micros ≤ now.instant) :
    ∃ start, now.shift? (-(micros : Int)) = some start ∧ start.instant + micros = now.instant := by
  have hsum : (now.instant : Int) + -(micros : Int) = (now.instant - micros : Nat) := by omega
  obtain ⟨start, hshift, hstart⟩ :=
    now.exists_shift?_eq_some hsum (Nat.lt_of_le_of_lt (Nat.sub_le _ _) now.inRange)
  exact ⟨start, hshift, by omega⟩

private theorem shift?_neg_eq_none {now : Moment} {micros : Nat} (hlt : now.instant < micros) :
    now.shift? (-(micros : Int)) = none := by
  rw [Moment.shift?, Moment.ofInstant?]
  exact dif_neg fun hin => by omega

/-- The time up to a moment is as long as asked for, if it begins within the calendar. -/
theorem exists_upTo {now : Moment} {micros : Nat} (hle : micros ≤ now.instant) :
    ∃ start : Moment, start.instant + micros = now.instant ∧
      upTo now micros = .ok ⟨start, now⟩ := by
  obtain ⟨d, hduration, hd⟩ := exists_ofMicros?_eq_some hle
  obtain ⟨start, hshift, hstart⟩ := exists_shift?_neg hle
  refine ⟨start, hstart, ?_⟩
  rw [upTo, hduration]
  dsimp only
  rw [hd, hshift]

theorem upTo_eq_error {now : Moment} {micros : Nat} (hlt : now.instant < micros) :
    upTo now micros = .error (.outOfRange []) := by
  cases hduration : Duration.ofMicros? micros with
  | none => rw [upTo, hduration]
  | some d =>
    have hd : d.micros = micros := by
      rw [Duration.ofMicros?] at hduration
      split at hduration <;> cases hduration
      rfl
    rw [upTo, hduration]
    dsimp only
    rw [hd, shift?_neg_eq_none hlt]

end Interval

namespace IsWindow

variable {text digits : Text} {unit : WindowUnit}

/-- The count of plain digits is what they stand for in decimal notation. -/
private theorem countOf_eq_ofDigits (hdigits : ∀ c ∈ digits, Text.isPlainDigit c) :
    DatePhrase.countOf digits = Text.ofDigits digits := by
  have hvalue : ∀ c, Text.isPlainDigit c →
      (Text.digitValue? c).getD 0 = Text.plainDigitValue c := by
    intro c hc
    have hrange := Text.isPlainDigit_iff.mp hc
    have hfirst : Text.zeroPoints.find? (fun start => start ≤ c.toNat && c.toNat < start + 10) =
        some 48 := by
      rw [Text.zeroPoints, List.find?_cons_of_pos]
      simp only [Bool.and_eq_true, decide_eq_true_eq]
      omega
    rw [Text.digitValue?, hfirst]
    rfl
  rw [DatePhrase.countOf, Text.ofDigits]
  exact List.foldl_ext _ _ _ fun n c hc => by rw [hvalue c (hdigits c hc)]

/-- No blank is at either end of the phrase. -/
theorem trim_eq_self (htext : IsWindow text digits unit) : Text.trim text = text := by
  obtain ⟨last, gap, word, rfl, hlast, -, -, hword⟩ := htext
  have hsigma : 'Σ' ∉ last :=
    Text.capitalSigma_not_mem_of_plain (by rw [hlast]; decide)
  refine Text.trimBy_eq_self (fun c hc hblank => ?_) fun c hc hblank => ?_
  · -- A blank at the beginning would also begin the small form, which begins with a letter.
    cases last with
    | nil => cases hlast
    | cons d last =>
      obtain rfl : d = c := Option.some.inj hc
      rw [Text.lower_eq_flatMap hsigma, List.flatMap_cons,
        Text.lowerChar_of_isBlank hblank] at hlast
      rw [(List.cons.inj hlast).1] at hblank
      exact absurd hblank (by decide)
  · rw [List.getLast?_append_of_ne_nil, List.getLast?_append_of_ne_nil,
      List.getLast?_append_of_ne_nil _ hword.ne_nil] at hc
    · exact hword.not_isBlank c (List.mem_of_getLast? hc) hblank
    · exact List.append_ne_nil_of_right_ne_nil _ hword.ne_nil
    · exact List.append_ne_nil_of_right_ne_nil _
        (List.append_ne_nil_of_right_ne_nil _ hword.ne_nil)

/-- The small form of the phrase is `last`, the count as it stands, and the word in small letters. -/
theorem exists_lower_eq (htext : IsWindow text digits unit) :
    ∃ count, Text.lower text = "last ".toList ++ count ∧ count.head? = digits.head? ∧
      DatePhrase.IsCount count digits unit.micros := by
  obtain ⟨last, gap, word, rfl, hlast, hdigits, hgap, hword⟩ := htext
  have hsame : ∀ c ∈ digits ++ gap, Text.lowerChar c = [c] := by
    intro c hc
    rcases List.mem_append.mp hc with hdigit | hblank
    · have hrange := Text.isPlainDigit_iff.mp (hdigits.plain c hdigit)
      have hsmall : (⟨48, 57, 1, 0⟩ : Text.CaseRun).isSmall := by decide
      exact Text.lowerChar_of_holds hsmall ⟨hrange.1, hrange.2, Nat.mod_one _⟩
    · exact Text.lowerChar_of_isBlank (hgap c hblank)
  have hlastSigma : 'Σ' ∉ last := Text.capitalSigma_not_mem_of_plain (by rw [hlast]; decide)
  have hsigma := Text.capitalSigma_not_mem_of_small hsame
  have hrestSigma : 'Σ' ∉ digits ++ gap ++ word := by
    rw [List.mem_append, not_or]
    exact ⟨hsigma, hword.capitalSigma_not_mem⟩
  refine ⟨digits ++ (gap ++ Text.lower word), ?_, ?_, gap, Text.lower word, rfl, hdigits.ne_nil,
    fun c hc => Calendar.isDecimalDigit_of_isPlainDigit (hdigits.plain c hc), hgap,
    hword.unitMicros?⟩
  · rw [← List.append_assoc digits, Text.lower_append hlastSigma hrestSigma, hlast,
      Text.lower_append hsigma hword.capitalSigma_not_mem, Text.lower_eq_self hsame,
      List.append_assoc]
  · exact List.head?_append_of_ne_nil _ hdigits.ne_nil

/-- The phrase is read as the time of its length up to now. -/
theorem read?_lower (htext : IsWindow text digits unit) (hlength : digits.length ≤ digitLimit)
    (now : Moment) :
    DatePhrase.read? now (Text.lower text) =
      some (Interval.upTo now (Text.ofDigits digits * unit.micros : Nat)) := by
  have hplain : Text.Digits digits := by
    obtain ⟨_, _, _, -, -, hdigits, -⟩ := htext
    exact hdigits
  obtain ⟨count, hlower, hhead, hcount⟩ := htext.exists_lower_eq
  obtain ⟨d, rest, rfl⟩ := List.exists_cons_of_ne_nil hplain.ne_nil
  have hnamed : Text.lower text ∉ DatePhrase.named := by
    have hletter : ∀ phrase ∈ DatePhrase.named, ∀ c ∈ (phrase.drop 5).head?,
        ¬ Text.isPlainDigit c := by
      decide
    rw [hlower]
    exact fun hmem => hletter _ hmem d hhead (hplain.plain d List.mem_cons_self)
  have hlast : "last ".toList.isPrefixOf (Text.lower text) := by
    rw [hlower]
    exact List.isPrefixOf_iff_prefix.mpr (List.prefix_append _ _)
  have hdrop : (Text.lower text).drop 5 = count := by
    rw [hlower]
    rfl
  rw [DatePhrase.read?_of_not_mem_named hnamed, if_pos hlast, hdrop,
    DatePhrase.readCount?_eq_some_iff.mpr hcount, Option.map_some]
  dsimp only
  rw [if_pos hlength, countOf_eq_ofDigits hplain.plain, Nat.cast_mul]

end IsWindow

/-- A phrase put together from plain digits and a word is a window of the length that it says. -/
private theorem isWindow_listed (unit : WindowUnit) (digits gap word : Text)
    (hdigits : digits ≠ [] ∧ (∀ c ∈ digits, Text.isPlainDigit c) ∧ ∀ c ∈ gap, Text.isBlank c)
    (hword : word ∈ unit.words ∧ Text.lower word = word ∧ digits.length ≤ 2) :
    ∃ read unit', IsWindow ("last ".toList ++ (digits ++ (gap ++ word))) read unit' ∧
      read.length ≤ digitLimit ∧
      Text.ofDigits digits * unit.micros = Text.ofDigits read * unit'.micros := by
  refine ⟨digits, unit, ⟨"last ".toList, gap, word, rfl, by decide, ⟨hdigits.1, hdigits.2.1⟩,
    hdigits.2.2, word, hword.1, .inl hword.2.1⟩, ?_, rfl⟩
  exact Nat.le_trans hword.2.2 (by decide)

/-- A window begins exactly its count of units before now and ends now, and it is out of range if
    that beginning would be before the calendar, however large the count is. The windows that are
    listed are windows of the same kind, with the lengths that they say. -/
theorem DateRange.read_window (now : Moment) (field : Option Text) :
    (∀ {text digits : Text} {unit : WindowUnit}, IsWindow text digits unit →
        digits.length ≤ digitLimit →
        (Text.ofDigits digits * unit.micros ≤ now.instant → ∃ start : Moment,
            start.instant + Text.ofDigits digits * unit.micros = now.instant ∧
              read now field text = .ok ⟨⟨start, now⟩, field⟩) ∧
          (now.instant < Text.ofDigits digits * unit.micros →
            read now field text = .error (.outOfRange text))) ∧
      ∀ window ∈ DatePhrase.windows, ∃ digits unit, IsWindow window.1 digits unit ∧
        digits.length ≤ digitLimit ∧ window.2 = Text.ofDigits digits * unit.micros := by
  constructor
  · intro text digits unit htext hlength
    have hread := htext.read?_lower hlength now
    constructor
    · intro hle
      obtain ⟨start, hstart, hupTo⟩ := Interval.exists_upTo hle
      refine ⟨start, hstart, ?_⟩
      simp only [read, readInterval, htext.trim_eq_self, hread, hupTo]
    · intro hlt
      simp only [read, readInterval, htext.trim_eq_self, hread, Interval.upTo_eq_error hlt]
  · simp only [DatePhrase.windows, List.forall_mem_cons]
    exact ⟨isWindow_listed .hour ['2', '4'] [] "h".toList (by decide) (by decide),
      isWindow_listed .hour ['2', '4'] [' '] "hours".toList (by decide) (by decide),
      isWindow_listed .day ['7'] [] "d".toList (by decide) (by decide),
      isWindow_listed .day ['7'] [' '] "days".toList (by decide) (by decide),
      isWindow_listed .day ['3', '0'] [] "d".toList (by decide) (by decide),
      isWindow_listed .day ['3', '0'] [' '] "days".toList (by decide) (by decide),
      fun _ hmem => absurd hmem List.not_mem_nil⟩

/-- A day and a half before the second noon of the calendar is its first moment, and one microsecond
    earlier the same phrase is out of range. -/
theorem DateRange.read_window_of_hours :
    let noon : Moment := ⟨36 * (3600 * 1000000), by decide⟩
    let earlier : Moment := ⟨36 * (3600 * 1000000) - 1, by decide⟩
    let text := "LAST 36\t HourSS".toList
    IsWindow text ['3', '6'] .hour ∧ read noon none text = .ok ⟨⟨⟨0, by decide⟩, noon⟩, none⟩ ∧
      read earlier none text = .error (.outOfRange text) := by
  intro noon earlier text
  have htext : IsWindow text ['3', '6'] .hour :=
    ⟨"LAST ".toList, ['\t', ' '], "HourSS".toList, rfl, by decide, ⟨by decide, by decide⟩,
      by decide, "hours".toList, by decide, .inr (by decide)⟩
  have hlength : Text.ofDigits ['3', '6'] * WindowUnit.hour.micros = noon.instant := by decide
  have htwo : ['3', '6'].length ≤ digitLimit := by decide
  refine ⟨htext, ?_, ?_⟩
  · obtain ⟨start, hstart, hread⟩ :=
      ((read_window noon none).1 htext htwo).1 (Nat.le_of_eq hlength)
    have hzero : start = ⟨0, by decide⟩ := by
      rw [hlength, Nat.add_eq_right] at hstart
      cases start
      simp only [Moment.mk.injEq]
      exact hstart
    rw [hread, hzero]
  · refine ((read_window earlier none).1 htext htwo).2 ?_
    rw [hlength]
    exact Nat.sub_one_lt (by decide)

end RecordFilter
