import Mathlib.Data.List.TakeDrop
import Mathlib.Data.List.TakeWhile
import RecordFilter.Calendar.Range
import RecordFilter.Proofs.Calendar.Dates
import RecordFilter.Proofs.Outcome

/-!
What can go wrong when a date range is read.

Most faults are about the text: it is no date, or a step from a date leaves the calendar. Two others
escape as they are. A phrase about a month may need a month of a year before the first or after the
last one, and a count may have more digits than are converted.
-/

namespace RecordFilter

/-- The step can only fail by leaving the calendar. -/
def FailsOutOfRange {α : Type} (step : Except DateError α) : Prop :=
  Ends (fun _ => True) (· = .outOfRange []) step

section

variable {α β : Type}

theorem FailsOutOfRange.bind {step : Except DateError α} {next : α → Except DateError β}
    (hstep : FailsOutOfRange step) (hnext : ∀ a, FailsOutOfRange (next a)) :
    FailsOutOfRange (step >>= next) :=
  Ends.bind hstep fun a _ => hnext a

theorem FailsOutOfRange.isAboutText {step : Except DateError α} (hstep : FailsOutOfRange step)
    {e : DateError} (he : step = .error e) : e.isAboutText := by
  rw [hstep.of_eq_error he]
  rfl

end

namespace Interval

open Calendar

theorem failsOutOfRange_moveDays (m : Moment) (days : Int) : FailsOutOfRange (moveDays m days) := by
  unfold moveDays
  split
  · exact .error rfl
  · exact .ok trivial

theorem failsOutOfRange_span (start : Moment) (micros : Int) :
    FailsOutOfRange (span start micros) := by
  unfold span
  split
  · exact .error rfl
  · split
    · exact .error rfl
    · exact .ok trivial

theorem failsOutOfRange_wholeDay (m : Moment) : FailsOutOfRange (wholeDay m) :=
  failsOutOfRange_span _ _

theorem failsOutOfRange_wholeWeek (m : Moment) (weeks : Int) :
    FailsOutOfRange (wholeWeek m weeks) :=
  (failsOutOfRange_moveDays _ _).bind fun _ =>
    (failsOutOfRange_moveDays _ _).bind fun _ => failsOutOfRange_span _ _

theorem failsOutOfRange_upTo (m : Moment) (micros : Int) : FailsOutOfRange (upTo m micros) := by
  unfold upTo
  split
  · exact .error rfl
  · split
    · exact .error rfl
    · exact .ok trivial

/-- A month has a first moment unless its year is before the first or after the last one. -/
theorem monthStart_eq_error_iff {index : Int} {e : DateError} :
    monthStart index = .error e ↔ e = .noSuchYear ∧ (index < 12 ∨ 120000 ≤ index) := by
  by_cases hyear : index < 12 ∨ 120000 ≤ index
  · have hnone : ¬ (⟨(index / 12).toNat, (index % 12).toNat + 1, 1⟩ : Date).IsValid := by
      rintro ⟨⟨hfirst, hlast⟩, -⟩
      change 1 ≤ (index / 12).toNat at hfirst
      change (index / 12).toNat ≤ 9999 at hlast
      omega
    have hmoment : monthStart index = .error .noSuchYear := by
      rw [monthStart, Moment.of?, if_neg fun h => hnone h.1]
    rw [hmoment, Except.error.injEq, and_iff_left hyear, eq_comm]
  · have hmonth : (index % 12).toNat + 1 ≤ 12 := by omega
    have hdate : (⟨(index / 12).toNat, (index % 12).toNat + 1, 1⟩ : Date).IsValid :=
      ⟨⟨by change 1 ≤ (index / 12).toNat; omega, by change (index / 12).toNat ≤ 9999; omega⟩,
        ⟨Nat.le_add_left 1 _, hmonth⟩, le_rfl, one_le_daysInMonth _ _⟩
    have hmidnight : (⟨0, 0, 0, 0⟩ : Clock).IsValid := by decide
    obtain ⟨m, hm⟩ := Moment.exists_of?_eq_some hdate hmidnight
    simp [monthStart, hm, hyear]

/-- The number of a month, counted from the first one of year 0. -/
def monthIndex (m : Moment) (months : Int) : Int :=
  m.date.year * 12 + (m.date.month - 1) + months

/-- A month and the month after it begin in years of the calendar. -/
def MonthInYears (m : Moment) (months : Int) : Prop :=
  12 ≤ monthIndex m months ∧ monthIndex m months + 1 < 120000

theorem wholeMonth_eq_error {m : Moment} {months : Int} (hmonth : ¬ MonthInYears m months) :
    wholeMonth m months = .error .noSuchYear := by
  refine bind_eq_error_iff.mpr ?_
  change monthStart (monthIndex m months) = _ ∨
    ∃ first, monthStart (monthIndex m months) = .ok first ∧ _
  rw [MonthInYears] at hmonth
  cases hfirst : monthStart (monthIndex m months) with
  | error e =>
    rw [(monthStart_eq_error_iff.mp hfirst).1]
    exact Or.inl rfl
  | ok first =>
    have hinside : ¬ (monthIndex m months < 12 ∨ 120000 ≤ monthIndex m months) := by
      intro hleaves
      rw [monthStart_eq_error_iff.mpr ⟨rfl, hleaves⟩] at hfirst
      cases hfirst
    have hnext : monthStart (monthIndex m months + 1) = .error .noSuchYear :=
      monthStart_eq_error_iff.mpr ⟨rfl, by omega⟩
    exact Or.inr ⟨first, rfl, bind_eq_error_iff.mpr (Or.inl hnext)⟩

theorem failsOutOfRange_wholeMonth {m : Moment} {months : Int} (hmonth : MonthInYears m months) :
    FailsOutOfRange (wholeMonth m months) := by
  obtain ⟨hfirst, hlast⟩ := hmonth
  have hstart : ∀ index, 12 ≤ index → index < 120000 → FailsOutOfRange (monthStart index) := by
    intro index hlow hhigh
    cases hstart : monthStart index with
    | ok m => exact .ok trivial
    | error e =>
      have hleaves := (monthStart_eq_error_iff.mp hstart).2
      omega
  refine (hstart _ hfirst (by omega)).bind fun first => ?_
  refine (hstart _ (by omega) hlast).bind fun next => ?_
  split
  · exact .error rfl
  · exact .ok trivial

theorem monthInYears_zero_iff {m : Moment} :
    MonthInYears m 0 ↔ ¬ (m.date.year = 9999 ∧ m.date.month = 12) := by
  obtain ⟨⟨hfirst, hlast⟩, ⟨hmonth, hend⟩, -⟩ := m.isValid_date
  rw [MonthInYears, monthIndex]
  omega

theorem monthInYears_neg_one_iff {m : Moment} :
    MonthInYears m (-1) ↔ ¬ (m.date.year = 1 ∧ m.date.month = 1) := by
  obtain ⟨⟨hfirst, hlast⟩, ⟨hmonth, hend⟩, -⟩ := m.isValid_date
  rw [MonthInYears, monthIndex]
  omega

end Interval

namespace DatePhrase

open Calendar RecordFilter.Interval

/-- The phrase needs a month that the calendar does not have: the one before its first month, or the
    one after its last month. -/
def LeavesYears (now : Moment) (phrase : Text) : Prop :=
  (phrase = "last month".toList ∧ now.date.year = 1 ∧ now.date.month = 1) ∨
    (phrase = "this month".toList ∧ now.date.year = 9999 ∧ now.date.month = 12)

/-- The text is a count and a unit, with the digits of the count and the microseconds of the
    unit. -/
def IsCount (text digits : Text) (micros : Nat) : Prop :=
  ∃ gap unit, text = digits ++ (gap ++ unit) ∧ digits ≠ [] ∧
    (∀ c ∈ digits, Text.isDecimalDigit c) ∧ (∀ c ∈ gap, Text.isBlank c) ∧
      unitMicros? unit = some micros

/-- The phrase has a count with more digits than are converted. -/
def HasLongCount (phrase : Text) : Prop :=
  ∃ digits micros, IsCount (phrase.drop 5) digits micros ∧ "last ".toList <+: phrase ∧
    digitLimit < digits.length

/-- No script has its digits among the blanks. -/
theorem not_isDecimalDigit_of_isBlank {c : Char} (hc : Text.isBlank c) :
    ¬ Text.isDecimalDigit c := by
  have hapart : ∀ start ∈ Text.zeroPoints, (32 < start ∧ start + 10 ≤ 133) ∨
      (160 < start ∧ start + 10 ≤ 5760) ∨ (5760 < start ∧ start + 10 ≤ 8192) ∨ 12288 < start := by
    decide
  rw [Text.isDecimalDigit, Text.digitValue?, Option.isSome_map, List.find?_isSome]
  rintro ⟨start, hstart, hin⟩
  have hplace := hapart start hstart
  simp only [Text.isBlank, Bool.or_eq_true, Bool.and_eq_true, decide_eq_true_eq, beq_iff_eq]
    at hc hin
  omega

/-- A unit begins with a letter. -/
theorem exists_of_unitMicros?_eq_some {unit : Text} {micros : Nat}
    (hunit : unitMicros? unit = some micros) :
    ∃ c rest, unit = c :: rest ∧ ¬ Text.isBlank c ∧ ¬ Text.isDecimalDigit c := by
  rw [unitMicros?, Option.map_eq_some_iff] at hunit
  obtain ⟨⟨word, _⟩, hfound, -⟩ := hunit
  have hmem := List.mem_of_find?_eq_some hfound
  have hword := List.find?_some hfound
  have hletters : ∀ entry ∈ unitWords, ∃ c rest, entry.1 = c :: rest ∧
      (c = 'd' ∨ c = 'h' ∨ c = 'm') := by
    simp [unitWords]
  obtain ⟨c, rest, hentry, hc⟩ := hletters _ hmem
  obtain rfl : word = c :: rest := hentry
  have hletter : ¬ Text.isBlank c ∧ ¬ Text.isDecimalDigit c := by
    rcases hc with rfl | rfl | rfl <;> decide
  rcases (Bool.or_eq_true_iff.mp hword).imp of_decide_eq_true of_decide_eq_true with rfl | rfl
  · exact ⟨c, rest, rfl, hletter⟩
  · exact ⟨c, rest ++ ['s'], rfl, hletter⟩

/-- Neither a blank nor a unit goes on with the digits of a count. -/
theorem takeWhile_isDecimalDigit {gap unit : Text} {micros : Nat}
    (hgap : ∀ c ∈ gap, Text.isBlank c) (hunit : unitMicros? unit = some micros) :
    (gap ++ unit).takeWhile Text.isDecimalDigit = [] := by
  cases gap with
  | nil =>
    obtain ⟨c, rest, rfl, -, hdigit⟩ := exists_of_unitMicros?_eq_some hunit
    exact List.takeWhile_cons_of_neg hdigit
  | cons c gap =>
    have hdigit := not_isDecimalDigit_of_isBlank (hgap c List.mem_cons_self)
    exact List.takeWhile_cons_of_neg hdigit

theorem readCount?_eq_some_iff {text digits : Text} {micros : Nat} :
    readCount? text = some (digits, micros) ↔ IsCount text digits micros := by
  have hsplit := List.takeWhile_append_dropWhile (p := Text.isDecimalDigit) (l := text)
  rw [readCount?, List.span_eq_takeWhile_dropWhile]
  dsimp only
  constructor
  · intro hcount
    generalize hrest : text.dropWhile Text.isDecimalDigit = rest at hcount hsplit
    have hgap := List.takeWhile_append_dropWhile (p := Text.isBlank) (l := rest)
    split_ifs at hcount with hnone
    obtain ⟨unit, hunit, hpair⟩ := Option.map_eq_some_iff.mp hcount
    obtain ⟨rfl, rfl⟩ := Prod.mk.inj hpair
    refine ⟨rest.takeWhile Text.isBlank, rest.dropWhile Text.isBlank, ?_, ?_, ?_, ?_, hunit⟩
    · rw [hgap, hsplit]
    · rwa [List.isEmpty_iff] at hnone
    · exact fun c hc => List.mem_takeWhile_imp hc
    · exact fun c hc => List.mem_takeWhile_imp hc
  · rintro ⟨gap, unit, rfl, hne, hdigits, hgap, hunit⟩
    have hstop := takeWhile_isDecimalDigit hgap hunit
    have hfirst : (digits ++ (gap ++ unit)).takeWhile Text.isDecimalDigit = digits := by
      rw [List.takeWhile_append_of_pos hdigits, hstop, List.append_nil]
    rw [hfirst, List.append_cancel_left_eq] at hsplit
    have hletter : unit.dropWhile Text.isBlank = unit := by
      obtain ⟨c, rest, rfl, hblank, -⟩ := exists_of_unitMicros?_eq_some hunit
      exact List.dropWhile_cons_of_neg hblank
    have hempty : ¬ digits.isEmpty := by rwa [List.isEmpty_iff]
    simp only [hfirst, hsplit, hempty, List.dropWhile_append_of_pos hgap, hletter, hunit]
    rfl

theorem HasLongCount.length_gt {phrase : Text} (hlong : HasLongCount phrase) :
    digitLimit < phrase.length := by
  obtain ⟨digits, micros, ⟨gap, unit, htext, -⟩, -, hdigits⟩ := hlong
  have hlength := congrArg List.length htext
  rw [List.length_drop, List.length_append] at hlength
  omega

section

variable {now : Moment} {phrase : Text}

theorem not_leavesYears (hlast : phrase ≠ "last month".toList)
    (hthis : phrase ≠ "this month".toList) : ¬ LeavesYears now phrase := by
  rintro (⟨hphrase, -⟩ | ⟨hphrase, -⟩)
  · exact hlast hphrase
  · exact hthis hphrase

/-- A phrase whose interval can only leave the calendar has no other fault. -/
theorem read?_of_failsOutOfRange {step : Except DateError Interval}
    (hread : read? now phrase = some step) (hstep : FailsOutOfRange step)
    (hyears : ¬ LeavesYears now phrase) (hshort : phrase.length ≤ digitLimit) {e : DateError} :
    read? now phrase = some (.error e) ∧ ¬ e.isAboutText ↔
      (e = .noSuchYear ∧ LeavesYears now phrase) ∨ (e = .tooManyDigits ∧ HasLongCount phrase) := by
  constructor
  · rintro ⟨hphrase, habout⟩
    rw [hread] at hphrase
    exact absurd (hstep.isAboutText (Option.some.inj hphrase)) habout
  · rintro (⟨-, hleaves⟩ | ⟨-, hlong⟩)
    · exact absurd hleaves hyears
    · exact absurd hlong.length_gt hshort.not_gt

theorem read?_of_leavesYears (hread : read? now phrase = some (.error .noSuchYear))
    (hyears : LeavesYears now phrase) (hshort : phrase.length ≤ digitLimit) {e : DateError} :
    read? now phrase = some (.error e) ∧ ¬ e.isAboutText ↔
      (e = .noSuchYear ∧ LeavesYears now phrase) ∨ (e = .tooManyDigits ∧ HasLongCount phrase) := by
  constructor
  · rintro ⟨hphrase, -⟩
    rw [hread, Option.some.injEq, Except.error.injEq] at hphrase
    exact Or.inl ⟨hphrase.symm, hyears⟩
  · rintro (⟨rfl, -⟩ | ⟨-, hlong⟩)
    · exact ⟨hread, nofun⟩
    · exact absurd hlong.length_gt hshort.not_gt

/-- A phrase for a month is at fault if the month leaves the years of the calendar. -/
theorem read?_of_wholeMonth {months : Int} (hread : read? now phrase = some (wholeMonth now months))
    (hmonth : MonthInYears now months ↔ ¬ LeavesYears now phrase)
    (hshort : phrase.length ≤ digitLimit) {e : DateError} :
    read? now phrase = some (.error e) ∧ ¬ e.isAboutText ↔
      (e = .noSuchYear ∧ LeavesYears now phrase) ∨ (e = .tooManyDigits ∧ HasLongCount phrase) := by
  by_cases hinside : MonthInYears now months
  · exact read?_of_failsOutOfRange hread (failsOutOfRange_wholeMonth hinside)
      (hmonth.mp hinside) hshort
  · rw [wholeMonth_eq_error hinside] at hread
    exact read?_of_leavesYears hread (not_not.mp (mt hmonth.mpr hinside)) hshort

theorem leavesYears_lastMonth_iff :
    LeavesYears now "last month".toList ↔ now.date.year = 1 ∧ now.date.month = 1 := by
  rw [LeavesYears, and_iff_right rfl]
  exact or_iff_left fun hthis => absurd hthis.1 (by decide)

theorem leavesYears_thisMonth_iff :
    LeavesYears now "this month".toList ↔ now.date.year = 9999 ∧ now.date.month = 12 := by
  rw [LeavesYears, and_iff_right rfl]
  exact or_iff_right fun hlast => absurd hlast.1 (by decide)

/-- The phrases that are no count. -/
def named : List Text :=
  ["today".toList, "yesterday".toList, "this week".toList, "last week".toList,
    "this month".toList, "last month".toList]

/-- A window that is listed has the length that its count and its unit stand for. -/
theorem exists_readCount?_of_mem_windows {micros : Nat} (hwindow : (phrase, micros) ∈ windows) :
    ∃ digits unit, "last ".toList.isPrefixOf phrase ∧
      readCount? (phrase.drop 5) = some (digits, unit) ∧ digits.length ≤ digitLimit ∧
        micros = countOf digits * unit := by
  have hall : ∀ entry ∈ windows, "last ".toList.isPrefixOf entry.1 ∧
      ∃ count, readCount? (entry.1.drop 5) = some count ∧ count.1.length ≤ digitLimit ∧
        entry.2 = countOf count.1 * count.2 := by
    simp only [windows, List.forall_mem_cons]
    refine ⟨?_, ?_, ?_, ?_, ?_, ?_, nofun⟩ <;>
      exact ⟨by decide, _, rfl, by decide, rfl⟩
  obtain ⟨hlast, ⟨digits, unit⟩, hcount, hlength, hmicros⟩ := hall _ hwindow
  exact ⟨digits, unit, hlast, hcount, hlength, hmicros⟩

/-- The windows that are listed need no rule of their own. -/
theorem read?_of_not_mem_named (hphrase : phrase ∉ named) :
    read? now phrase =
      if "last ".toList.isPrefixOf phrase then
        (readCount? (phrase.drop 5)).map fun (digits, unit) =>
          if digits.length ≤ digitLimit then upTo now (countOf digits * unit)
          else .error .tooManyDigits
      else none := by
  simp only [named, List.mem_cons, List.not_mem_nil, or_false, not_or] at hphrase
  obtain ⟨htoday, hyesterday, hthisWeek, hlastWeek, hthisMonth, hlastMonth⟩ := hphrase
  rw [read?, if_neg htoday, if_neg hyesterday, if_neg hthisWeek, if_neg hlastWeek,
    if_neg hthisMonth, if_neg hlastMonth]
  cases hwindow : windows.lookup phrase with
  | none => rfl
  | some micros =>
    obtain ⟨before, after, hsplit, -⟩ := List.lookup_eq_some_iff.mp hwindow
    have hmem : (phrase, micros) ∈ windows := by
      rw [hsplit]
      exact List.mem_append_right _ List.mem_cons_self
    obtain ⟨digits, unit, hlast, hcount, hlength, rfl⟩ := exists_readCount?_of_mem_windows hmem
    simp only [hlast, hcount, hlength, if_true, Option.map_some]
    rw [Nat.cast_mul]

/-- A count is only at fault for the number of its digits. -/
theorem read?_fault_iff_of_not_mem_named (hphrase : phrase ∉ named) {e : DateError} :
    read? now phrase = some (.error e) ∧ ¬ e.isAboutText ↔
      e = .tooManyDigits ∧ HasLongCount phrase := by
  rw [read?_of_not_mem_named hphrase]
  constructor
  · rintro ⟨hread, habout⟩
    split_ifs at hread with hprefix
    obtain ⟨⟨digits, micros⟩, hcount, hstep⟩ := Option.map_eq_some_iff.mp hread
    dsimp only at hstep
    split_ifs at hstep with hdigits
    · exact absurd ((failsOutOfRange_upTo _ _).isAboutText hstep) habout
    · refine ⟨(Except.error.inj hstep).symm, digits, micros, readCount?_eq_some_iff.mp hcount, ?_⟩
      exact ⟨List.isPrefixOf_iff_prefix.mp hprefix, Nat.lt_of_not_le hdigits⟩
  · rintro ⟨rfl, digits, micros, hcount, hprefix, hdigits⟩
    rw [if_pos (List.isPrefixOf_iff_prefix.mpr hprefix), readCount?_eq_some_iff.mpr hcount]
    exact ⟨congrArg some (if_neg hdigits.not_ge), nofun⟩

theorem read?_fault_iff {e : DateError} :
    read? now phrase = some (.error e) ∧ ¬ e.isAboutText ↔
      (e = .noSuchYear ∧ LeavesYears now phrase) ∨ (e = .tooManyDigits ∧ HasLongCount phrase) := by
  by_cases hphrase : phrase ∈ named
  · have hshort : phrase.length ≤ digitLimit := by
      have hall : ∀ phrase ∈ named, phrase.length ≤ digitLimit := by decide
      exact hall phrase hphrase
    simp only [named, List.mem_cons, List.not_mem_nil, or_false] at hphrase
    rcases hphrase with rfl | rfl | rfl | rfl | rfl | rfl
    · exact read?_of_failsOutOfRange rfl (failsOutOfRange_wholeDay now)
        (not_leavesYears (by decide) (by decide)) hshort
    · have hstep := (failsOutOfRange_moveDays now (-1)).bind failsOutOfRange_wholeDay
      exact read?_of_failsOutOfRange rfl hstep (not_leavesYears (by decide) (by decide)) hshort
    · exact read?_of_failsOutOfRange rfl (failsOutOfRange_wholeWeek now 0)
        (not_leavesYears (by decide) (by decide)) hshort
    · exact read?_of_failsOutOfRange rfl (failsOutOfRange_wholeWeek now (-1))
        (not_leavesYears (by decide) (by decide)) hshort
    · exact read?_of_wholeMonth rfl
        (monthInYears_zero_iff.trans (not_congr leavesYears_thisMonth_iff.symm)) hshort
    · exact read?_of_wholeMonth rfl
        (monthInYears_neg_one_iff.trans (not_congr leavesYears_lastMonth_iff.symm)) hshort
  · have hyears : ¬ LeavesYears now phrase := by
      refine not_leavesYears ?_ ?_
      · rintro rfl
        exact hphrase (by decide)
      · rintro rfl
        exact hphrase (by decide)
    rw [read?_fault_iff_of_not_mem_named hphrase, or_iff_right fun h => hyears h.2]

end

end DatePhrase

namespace DateRange

open Calendar

theorem readDate_isAboutText {now : Moment} {text : Text} {e : DateError}
    (he : readDate now text = .error e) : e.isAboutText := by
  unfold readDate at he
  split at he <;> cases he
  rfl

/-- Dates are at fault only for what is written. -/
theorem readDates_isAboutText {now : Moment} {text : Text} {e : DateError}
    (he : readDates now text = .error e) : e.isAboutText := by
  unfold readDates at he
  split at he
  · rcases bind_eq_error_iff.mp he with hdate | ⟨m, -, hday⟩
    · exact readDate_isAboutText hdate
    · exact (Interval.failsOutOfRange_wholeDay m).isAboutText hday
  · split at he
    · cases he
      rfl
    · split at he <;> cases he
      rfl
  · cases he
    rfl

theorem readInterval_fault_iff {now : Moment} {text : Text} {e : DateError} :
    readInterval now text = .error e ∧ ¬ e.isAboutText ↔
      DatePhrase.read? now (Text.lower text) = some (.error e) ∧ ¬ e.isAboutText := by
  unfold readInterval
  cases DatePhrase.read? now (Text.lower text) with
  | none =>
    refine ⟨fun h => absurd (readDates_isAboutText h.1) h.2, fun h => ?_⟩
    cases h.1
  | some phrase => simp

theorem read_fault_iff {now : Moment} {field : Option Text} {text : Text} {e : DateError} :
    read now field text = .error e ∧ ¬ e.isAboutText ↔
      readInterval now (Text.trim text) = .error e ∧ ¬ e.isAboutText := by
  unfold read
  dsimp only
  split
  case h_1 interval hinterval => simp [hinterval]
  case h_2 cause hinterval =>
    constructor
    · rintro ⟨hread, habout⟩
      cases hread
      exact absurd rfl habout
    · rintro ⟨hread, habout⟩
      rw [hinterval] at hread
      cases hread
      exact absurd rfl habout
  case h_3 fault _ hinterval => rw [hinterval, Except.error.injEq, Except.error.injEq]

/-- A date range is read, or the text is at fault, but for two kinds of phrases: `last month` in the
    first month of the calendar and `this month` in the last one, and a count that has more digits
    than are converted. -/
theorem read_error_not_isAboutText_iff (now : Moment) (field : Option Text) (text : Text)
    (e : DateError) :
    read now field text = .error e ∧ ¬ e.isAboutText ↔
      (e = .noSuchYear ∧ DatePhrase.LeavesYears now (Text.lower (Text.trim text))) ∨
        (e = .tooManyDigits ∧ DatePhrase.HasLongCount (Text.lower (Text.trim text))) :=
  read_fault_iff.trans (readInterval_fault_iff.trans DatePhrase.read?_fault_iff)

/-- No month is before the first one of the calendar. -/
example : read default none "Last Month ".toList = .error .noSuchYear := by decide

end DateRange

end RecordFilter
