import Mathlib.Order.Monotone.Basic
import RecordFilter.Filter.Dates
import RecordFilter.Proofs.Calendar.Moments
import RecordFilter.Proofs.Calendar.Ranges

/-!
The phrases for days, weeks and months.

The periods of one kind follow each other without a gap: each has a number, and it begins on the day
on which the period before it ends. The range of a phrase is one period, from its first midnight to
the last microsecond before the next period, so that it holds exactly the moments with the number of
that period.
-/

namespace RecordFilter

namespace Interval

open Calendar

/-- The interval begins with the first microsecond of one day, and ends one microsecond before
    another day. -/
structure IsDays (i : Interval) (first next : Nat) : Prop where
  start : i.start.instant = first * dayMicros
  stop : i.stop.instant + 1 = next * dayMicros

theorem IsDays.holds_iff {i : Interval} {first next : Nat} (hdays : i.IsDays first next)
    {m : Moment} : i.holds m ↔ first ≤ m.dayNumber ∧ m.dayNumber < next := by
  have hstop : m.instant ≤ i.stop.instant ↔ m.instant < next * dayMicros := by
    rw [← hdays.stop, Nat.lt_succ_iff]
  rw [holds, Moment.notAfter, Moment.notAfter, Bool.and_eq_true, decide_eq_true_iff,
    decide_eq_true_iff, hdays.start, hstop, Moment.mul_dayMicros_le_instant_iff,
    Moment.instant_lt_mul_dayMicros_iff]

/-- The last microsecond of one period and the first of the next one follow each other. -/
theorem IsDays.stop_add_one {i next : Interval} {first middle last : Nat}
    (hdays : i.IsDays first middle) (hnext : next.IsDays middle last) :
    i.stop.instant + 1 = next.start.instant :=
  hdays.stop.trans hnext.start.symm

theorem exists_stop {next : Moment} {days : Nat} (hnext : next.instant = days * dayMicros)
    (hpos : 0 < days) :
    ∃ stop, next.shift? (-1) = some stop ∧ stop.instant + 1 = days * dayMicros := by
  have hmicros : 0 < days * dayMicros := Nat.mul_pos hpos (by decide)
  have hin := next.inRange
  have hsum : (next.instant : Int) + -1 = (days * dayMicros - 1 : Nat) := by omega
  obtain ⟨stop, hstop, hinstant⟩ := next.exists_shift?_eq_some hsum (by omega)
  exact ⟨stop, hstop, by omega⟩

/-- Moving by days keeps the time of day. -/
theorem exists_moveDays (m : Moment) {days : Int} {day : Nat}
    (hday : (m.dayNumber : Int) + days = day) (hin : day < dayCount) :
    ∃ moved, moveDays m days = .ok moved ∧ moved.dayNumber = day ∧
      moved.timeOfDay = m.timeOfDay := by
  have htime := m.timeOfDay_lt
  have hfits : (day + 1) * dayMicros ≤ dayCount * dayMicros := Nat.mul_le_mul_right _ hin
  rw [Nat.succ_mul] at hfits
  have hsum : (m.instant : Int) + days * dayMicros = (day * dayMicros + m.timeOfDay : Nat) := by
    rw [m.instant_eq]
    push_cast
    rw [← hday, Int.add_mul, Int.add_right_comm]
  obtain ⟨moved, hmoved, hinstant⟩ := m.exists_shift?_eq_some hsum (by omega)
  refine ⟨moved, ?_, Moment.day_and_time_of_instant hinstant htime⟩
  simp only [moveDays, hmoved]

theorem exists_span {start : Moment} {first : Nat} (days : Nat) {micros : Int}
    (hstart : start.instant = first * dayMicros) (hmicros : micros = days * dayMicros)
    (hpos : 0 < days) (hin : first + days < dayCount) :
    ∃ i, span start micros = .ok i ∧ i.IsDays first (first + days) := by
  have hsum : (start.instant : Int) + micros = ((first + days) * dayMicros : Nat) := by
    rw [hstart, hmicros, Int.natCast_mul, Int.natCast_mul, Int.natCast_add, Int.add_mul]
  have hnextDay : (first + days) * dayMicros < dayCount * dayMicros :=
    Nat.mul_lt_mul_of_pos_right hin (by decide)
  obtain ⟨next, hnext, hinstant⟩ := start.exists_shift?_eq_some hsum hnextDay
  obtain ⟨stop, hstop, htick⟩ := exists_stop hinstant (Nat.add_pos_right first hpos)
  refine ⟨⟨start, stop⟩, ?_, hstart, htick⟩
  simp only [span, hnext, hstop]

end Interval

/-- The kinds of periods that a phrase can ask for. -/
inductive Period
  | day
  | week
  | month
  deriving DecidableEq

namespace Period

open Calendar RecordFilter.Interval

/-- The phrase for the period of the present moment. -/
def current : Period → Text
  | day => "today".toList
  | week => "this week".toList
  | month => "this month".toList

/-- The phrase for the period before it. -/
def previous : Period → Text
  | day => "yesterday".toList
  | week => "last week".toList
  | month => "last month".toList

/-- The moment lies in the week that begins on a day. Weeks begin on Mondays, as the calendar
    does. -/
def InWeek (monday : Nat) (m : Moment) : Prop :=
  monday % 7 = 0 ∧ monday ≤ m.dayNumber ∧ m.dayNumber < monday + 7

/-- Two moments lie in one period. -/
def Shared : Period → Moment → Moment → Prop
  | day, m, now => m.date = now.date
  | week, m, now => ∃ monday, InWeek monday m ∧ InWeek monday now
  | month, m, now => m.date.year = now.date.year ∧ m.date.month = now.date.month

/-- The first moment lies in the period directly before the period of the second one. -/
def Precedes : Period → Moment → Moment → Prop
  | day, m, now => m.dayNumber + 1 = now.dayNumber
  | week, m, now => ∃ monday, InWeek monday m ∧ InWeek (monday + 7) now
  | month, m, now =>
    (m.date.year = now.date.year ∧ m.date.month + 1 = now.date.month) ∨
      (m.date.year + 1 = now.date.year ∧ m.date.month = 12 ∧ now.date.month = 1)

/-- The number of the period of a moment, counted from the beginning of the calendar. -/
def number : Period → Moment → Nat
  | day, m => m.dayNumber
  | week, m => m.dayNumber / 7
  | month, m => (m.date.year - 1) * 12 + (m.date.month - 1)

/-- The day on which the period of a number begins. -/
def firstDay : Period → Nat → Nat
  | day, n => n
  | week, n => n * 7
  | month, n => daysBeforeYear (n / 12 + 1) + daysBeforeMonth (n / 12 + 1) (n % 12 + 1)

/-- The months follow each other, also from one year to the next. -/
theorem firstDay_month_succ (n : Nat) :
    firstDay month (n + 1) = firstDay month n + daysInMonth (n / 12 + 1) (n % 12 + 1) := by
  simp only [firstDay]
  -- Only the month after December is counted from the first day of another year.
  by_cases hlast : n % 12 + 1 = 12
  · have hdecember : daysBeforeMonth (n / 12 + 1) 13 =
        daysBeforeMonth (n / 12 + 1) 12 + daysInMonth (n / 12 + 1) 12 :=
      daysBeforeMonth_succ _ (by decide)
    have hjanuary : daysBeforeMonth (n / 12 + 1 + 1) 1 = 0 := rfl
    have hyear := daysBeforeYear_add_daysBeforeMonth (Nat.le_add_left 1 (n / 12))
    have hdiv : (n + 1) / 12 = n / 12 + 1 := by omega
    have hmod : (n + 1) % 12 + 1 = 1 := by omega
    rw [hdiv, hmod, hlast]
    omega
  · have hnext := daysBeforeMonth_succ (n / 12 + 1) (Nat.le_add_left 1 (n % 12))
    have hdiv : (n + 1) / 12 = n / 12 := by omega
    have hmod : (n + 1) % 12 = n % 12 + 1 := by omega
    rw [hdiv, hmod, hnext, Nat.add_assoc]

theorem firstDay_strictMono (p : Period) : StrictMono p.firstDay := by
  refine strictMono_nat_of_lt_succ fun n => ?_
  cases p with
  | day => exact Nat.lt_succ_self n
  | week => exact Nat.mul_lt_mul_of_pos_right (Nat.lt_succ_self n) (by decide)
  | month =>
    rw [firstDay_month_succ]
    exact Nat.lt_add_of_pos_right (one_le_daysInMonth _ _)

/-- Every moment lies in the period of its number. -/
theorem firstDay_number (p : Period) (m : Moment) :
    p.firstDay (p.number m) ≤ m.dayNumber ∧ m.dayNumber < p.firstDay (p.number m + 1) := by
  cases p with
  | day => exact ⟨le_rfl, Nat.lt_succ_self _⟩
  | week =>
    simp only [firstDay, number]
    omega
  | month =>
    obtain ⟨⟨hyear, -⟩, ⟨hmonth, hend⟩, hday, hfits⟩ := m.isValid_date
    have hplace := m.dayNumber_date
    have hyears : number month m / 12 + 1 = m.date.year := by
      rw [number]
      omega
    have hmonths : number month m % 12 + 1 = m.date.month := by
      rw [number]
      omega
    rw [firstDay_month_succ, firstDay, hyears, hmonths]
    rw [Date.dayNumber] at hplace
    omega

/-- A period holds the moments that have its number. -/
theorem number_eq_iff {p : Period} {m : Moment} {n : Nat} :
    p.number m = n ↔ p.firstDay n ≤ m.dayNumber ∧ m.dayNumber < p.firstDay (n + 1) := by
  constructor
  · rintro rfl
    exact p.firstDay_number m
  · rintro ⟨hfirst, hnext⟩
    -- Two periods with a day in common have one number, since later periods begin later.
    obtain ⟨hlow, hhigh⟩ := p.firstDay_number m
    refine Nat.le_antisymm ?_ ?_
    · exact Nat.lt_succ_iff.mp (p.firstDay_strictMono.lt_iff_lt.mp (hlow.trans_lt hnext))
    · exact Nat.lt_succ_iff.mp (p.firstDay_strictMono.lt_iff_lt.mp (hfirst.trans_lt hhigh))

theorem inWeek_iff {monday : Nat} {m : Moment} :
    InWeek monday m ↔ monday = number week m * 7 := by
  rw [InWeek, number]
  omega

/-- Two moments lie in one period when the periods have one number. -/
theorem shared_iff {p : Period} {m now : Moment} :
    p.Shared m now ↔ p.number m = p.number now := by
  cases p with
  | day => exact Moment.date_eq_iff
  | week =>
    simp only [Shared, inWeek_iff]
    rw [exists_eq_left]
    omega
  | month =>
    obtain ⟨⟨hyear, -⟩, ⟨hmonth, hend⟩, -⟩ := m.isValid_date
    obtain ⟨⟨hnowYear, -⟩, ⟨hnowMonth, hnowEnd⟩, -⟩ := now.isValid_date
    rw [Shared, number, number]
    omega

theorem precedes_iff {p : Period} {m now : Moment} :
    p.Precedes m now ↔ p.number m + 1 = p.number now := by
  cases p with
  | day => exact Iff.rfl
  | week =>
    simp only [Precedes, inWeek_iff]
    rw [exists_eq_left]
    omega
  | month =>
    obtain ⟨⟨hyear, -⟩, ⟨hmonth, hend⟩, -⟩ := m.isValid_date
    obtain ⟨⟨hnowYear, -⟩, ⟨hnowMonth, hnowEnd⟩, -⟩ := now.isValid_date
    rw [Precedes, number, number]
    omega

variable {now : Moment}

/-- The years from 2 to 9998 are at least a year away from both ends of the calendar. -/
theorem dayNumber_bounds (hfirst : 2 ≤ now.date.year) (hlast : now.date.year ≤ 9998) :
    365 ≤ now.dayNumber ∧ now.dayNumber + 365 < dayCount := by
  have hspec : daysBeforeYear now.date.year ≤ now.dayNumber ∧
      now.dayNumber < daysBeforeYear (now.date.year + 1) := yearOf_spec now.dayNumber
  have hsecond : daysBeforeYear 2 ≤ daysBeforeYear now.date.year := daysBeforeYear_mono hfirst
  have hend : daysBeforeYear (now.date.year + 1) ≤ daysBeforeYear 9999 :=
    daysBeforeYear_mono (Nat.succ_le_succ hlast)
  have hyear : daysBeforeYear 2 = 365 := rfl
  have hdays : daysBeforeYear 9999 + 365 = dayCount := rfl
  omega

theorem exists_wholeDay {m : Moment} (hin : m.dayNumber + 1 < dayCount) :
    ∃ i, wholeDay m = .ok i ∧
      i.IsDays (firstDay day m.dayNumber) (firstDay day (m.dayNumber + 1)) :=
  exists_span 1 rfl (Int.one_mul _).symm Nat.one_pos hin

theorem exists_yesterday {n : Nat} (hday : n + 1 = now.dayNumber) :
    ∃ i, (do wholeDay (← moveDays now (-1))) = .ok i ∧
      i.IsDays (firstDay day n) (firstDay day (n + 1)) := by
  have hin : n + 1 < dayCount := hday ▸ now.dayNumber_lt_dayCount
  have hback : (now.dayNumber : Int) + -1 = n := by omega
  obtain ⟨moved, hmoved, rfl, -⟩ := exists_moveDays now hback (Nat.lt_of_succ_lt hin)
  obtain ⟨i, hi, hdays⟩ := exists_wholeDay hin
  exact ⟨i, bind_eq_ok_iff.mpr ⟨moved, hmoved, hi⟩, hdays⟩

theorem exists_wholeWeek (weeks : Int) {n : Nat} (hweek : (number week now : Int) + weeks = n)
    (hin : (n + 1) * 7 < dayCount) :
    ∃ i, wholeWeek now weeks = .ok i ∧
      i.IsDays (firstDay week n) (firstDay week (n + 1)) := by
  have hday := now.dayNumber_lt_dayCount
  have hweekday : now.weekday = now.dayNumber % 7 := rfl
  have hback : (now.dayNumber : Int) + -(now.weekday : Int) = (now.dayNumber / 7 * 7 : Nat) := by
    omega
  obtain ⟨here, hhere, hfirst, -⟩ := exists_moveDays now hback (by omega)
  have hweeks : (here.startOfDay.dayNumber : Int) + 7 * weeks = (n * 7 : Nat) := by
    rw [number] at hweek
    rw [here.dayNumber_startOfDay, hfirst]
    omega
  obtain ⟨monday, hmonday, hstart, hmidnight⟩ :=
    exists_moveDays here.startOfDay hweeks (by omega)
  have hinstant := monday.instant_eq
  rw [hstart, hmidnight, here.timeOfDay_startOfDay, Nat.add_zero] at hinstant
  obtain ⟨i, hi, hdays⟩ := exists_span 7 hinstant rfl (by decide) (by omega)
  rw [← Nat.succ_mul] at hdays
  exact ⟨i, bind_eq_ok_iff.mpr ⟨here, hhere, bind_eq_ok_iff.mpr ⟨monday, hmonday, hi⟩⟩, hdays⟩

theorem exists_monthStart {n : Nat} (hin : n < 9999 * 12) :
    ∃ m, monthStart ((n + 12 : Nat) : Int) = .ok m ∧
      m.instant = firstDay month n * dayMicros := by
  cases hstart : monthStart ((n + 12 : Nat) : Int) with
  | error e =>
    have hleaves := (monthStart_eq_error_iff.mp hstart).2
    omega
  | ok m =>
    refine ⟨m, rfl, ?_⟩
    rw [monthStart] at hstart
    have hyear : ((n + 12 : Nat) / 12 : Int).toNat = n / 12 + 1 := by omega
    have hmonth : ((n + 12 : Nat) % 12 : Int).toNat + 1 = n % 12 + 1 := by omega
    rw [hyear, hmonth] at hstart
    split at hstart
    · cases hstart
    · cases hstart
      have hinstant := Moment.instant_of_of?_eq_some ‹_›
      have hday : (⟨n / 12 + 1, n % 12 + 1, 1⟩ : Date).dayNumber = firstDay month n := rfl
      have hmidnight : (⟨0, 0, 0, 0⟩ : Clock).micros = 0 := rfl
      rw [hinstant, hday, hmidnight, Nat.add_zero]

theorem exists_wholeMonth (months : Int) {n : Nat}
    (hmonth : (number month now : Int) + months = n) (hin : n + 1 < 9999 * 12) :
    ∃ i, wholeMonth now months = .ok i ∧
      i.IsDays (firstDay month n) (firstDay month (n + 1)) := by
  obtain ⟨⟨hyear, -⟩, ⟨hfirst, -⟩, -⟩ := now.isValid_date
  have hindex : monthIndex now months = (n + 12 : Nat) := by
    rw [number] at hmonth
    rw [monthIndex]
    omega
  obtain ⟨first, hstart, hinstant⟩ := exists_monthStart (Nat.lt_of_succ_lt hin)
  obtain ⟨next, hnext, hend⟩ := exists_monthStart hin
  have hpos := (firstDay_strictMono month).lt_iff_lt.mpr (Nat.lt_succ_self n)
  obtain ⟨stop, hstop, htick⟩ := exists_stop hend (Nat.zero_lt_of_lt hpos)
  refine ⟨⟨first, stop⟩, ?_, hinstant, htick⟩
  refine bind_eq_ok_iff.mpr ⟨first, ?_, bind_eq_ok_iff.mpr ⟨next, ?_, ?_⟩⟩
  · change monthStart (monthIndex now months) = _
    rw [hindex, hstart]
  · change monthStart (monthIndex now months + 1) = _
    rw [hindex]
    exact hnext
  · rw [hstop]
    rfl

/-- A phrase without blanks around it and in small letters is read as it stands. -/
theorem read_of_phrase {field : Option Text} {text : Text} {i : Interval}
    (htrim : Text.trim text = text) (hlower : Text.lower text = text)
    (hread : DatePhrase.read? now text = some (.ok i)) :
    DateRange.read now field text = .ok ⟨i, field⟩ := by
  simp only [DateRange.read, DateRange.readInterval, htrim, hlower, hread]

/-- The range of the present period is the whole period. -/
theorem exists_read_current (hfirst : 2 ≤ now.date.year) (hlast : now.date.year ≤ 9998)
    (p : Period) (field : Option Text) :
    ∃ i, DateRange.read now field p.current = .ok ⟨i, field⟩ ∧
      i.IsDays (p.firstDay (p.number now)) (p.firstDay (p.number now + 1)) := by
  obtain ⟨hlow, hhigh⟩ := dayNumber_bounds hfirst hlast
  obtain ⟨⟨hyear, -⟩, ⟨hmonth, hend⟩, -⟩ := now.isValid_date
  cases p with
  | day =>
    obtain ⟨i, hi, hdays⟩ := exists_wholeDay (m := now) (by omega)
    exact ⟨i, read_of_phrase (by decide) (by decide) (congrArg some hi), hdays⟩
  | week =>
    obtain ⟨i, hi, hdays⟩ := exists_wholeWeek 0 (Int.add_zero (number week now))
      (by rw [number]; omega)
    exact ⟨i, read_of_phrase (by decide) (by decide) (congrArg some hi), hdays⟩
  | month =>
    obtain ⟨i, hi, hdays⟩ := exists_wholeMonth 0 (Int.add_zero (number month now))
      (by rw [number]; omega)
    exact ⟨i, read_of_phrase (by decide) (by decide) (congrArg some hi), hdays⟩

/-- The range of the period before is the whole period of the number before. -/
theorem exists_read_previous (hfirst : 2 ≤ now.date.year) (hlast : now.date.year ≤ 9998)
    (p : Period) (field : Option Text) :
    ∃ i n, DateRange.read now field p.previous = .ok ⟨i, field⟩ ∧ n + 1 = p.number now ∧
      i.IsDays (p.firstDay n) (p.firstDay (n + 1)) := by
  obtain ⟨hlow, hhigh⟩ := dayNumber_bounds hfirst hlast
  obtain ⟨⟨hyear, -⟩, ⟨hmonth, hend⟩, -⟩ := now.isValid_date
  have hpos : 1 ≤ p.number now := by
    cases p <;> rw [number] <;> omega
  obtain ⟨n, hn⟩ := Nat.exists_eq_add_of_le' hpos
  have hback : (p.number now : Int) + -1 = n := by omega
  cases p with
  | day =>
    obtain ⟨i, hi, hdays⟩ := exists_yesterday hn.symm
    exact ⟨i, n, read_of_phrase (by decide) (by decide) (congrArg some hi), hn.symm, hdays⟩
  | week =>
    obtain ⟨i, hi, hdays⟩ := exists_wholeWeek (-1) hback (by rw [number] at hn; omega)
    exact ⟨i, n, read_of_phrase (by decide) (by decide) (congrArg some hi), hn.symm, hdays⟩
  | month =>
    obtain ⟨i, hi, hdays⟩ := exists_wholeMonth (-1) hback (by rw [number] at hn; omega)
    exact ⟨i, n, read_of_phrase (by decide) (by decide) (congrArg some hi), hn.symm, hdays⟩

/-- An interval of one whole period holds the moments of that period. -/
theorem holds_iff_of_isDays {p : Period} {i : Interval} {n : Nat}
    (hdays : i.IsDays (p.firstDay n) (p.firstDay (n + 1))) {m : Moment} :
    i.holds m ↔ p.number m = n :=
  hdays.holds_iff.trans number_eq_iff.symm

/-- The phrases for a day, a week and a month mean exactly the period of the present moment and the
    one directly before it: neither a gap nor an overlap is between the two, whatever the lengths
    of the months are and wherever a year ends. -/
theorem read_current_and_previous (now : Moment) (hfirst : 2 ≤ now.date.year)
    (hlast : now.date.year ≤ 9998) (p : Period) (field : Option Text) :
    ∃ current previous : Interval,
      DateRange.read now field p.current = .ok ⟨current, field⟩ ∧
      DateRange.read now field p.previous = .ok ⟨previous, field⟩ ∧
      previous.stop.instant + 1 = current.start.instant ∧
      ∀ m, (current.holds m ↔ p.Shared m now) ∧ (previous.holds m ↔ p.Precedes m now) := by
  obtain ⟨current, hcurrent, hdays⟩ := exists_read_current hfirst hlast p field
  obtain ⟨previous, n, hprevious, hn, hbefore⟩ := exists_read_previous hfirst hlast p field
  rw [← hn] at hdays
  refine ⟨current, previous, hcurrent, hprevious, hbefore.stop_add_one hdays, fun m => ?_⟩
  constructor
  · rw [holds_iff_of_isDays hdays, shared_iff, hn]
  · rw [holds_iff_of_isDays hbefore, precedes_iff, ← hn, Nat.succ_inj]

/-- The last microsecond of a leap day belongs to the last month, and not to this one. -/
theorem read_months_around_leapDay :
    let now : Moment := ⟨738945 * dayMicros, by decide⟩
    let leapDay : Moment := ⟨738945 * dayMicros - 1, by decide⟩
    (now.date = ⟨2024, 3, 1⟩ ∧ leapDay.date = ⟨2024, 2, 29⟩) ∧ ∃ current previous : Interval,
      DateRange.read now none "this month".toList = .ok ⟨current, none⟩ ∧
      DateRange.read now none "last month".toList = .ok ⟨previous, none⟩ ∧
      ¬ current.holds leapDay ∧ previous.holds leapDay := by
  intro now leapDay
  have hnow : now.date = ⟨2024, 3, 1⟩ := by decide
  have hleap : leapDay.date = ⟨2024, 2, 29⟩ := by decide
  refine ⟨⟨hnow, hleap⟩, ?_⟩
  obtain ⟨current, previous, hcurrent, hprevious, -, hholds⟩ :=
    read_current_and_previous now (by rw [hnow]; decide) (by rw [hnow]; decide) month none
  obtain ⟨hthis, hlast⟩ := hholds leapDay
  refine ⟨current, previous, hcurrent, hprevious, ?_, ?_⟩
  · rw [hthis, Shared, hnow, hleap]
    decide
  · rw [hlast, Precedes, hnow, hleap]
    decide

end Period

end RecordFilter
