import RecordFilter.Proofs.Calendar.Dates

/-!
Moments, their days and their times of day.

A moment is its day number and the microseconds since the midnight before it, and it is found again
from its date and its time of day.
-/

namespace RecordFilter

namespace Moment

theorem timeOfDay_lt (m : Moment) : m.timeOfDay < dayMicros :=
  Nat.mod_lt m.instant (by decide)

theorem instant_eq (m : Moment) : m.instant = m.dayNumber * dayMicros + m.timeOfDay :=
  (Nat.div_add_mod' m.instant dayMicros).symm

/-- A number of days and a time of day determine the day number and the time of the moment. -/
theorem day_and_time_of_instant {m : Moment} {day time : Nat}
    (hm : m.instant = day * dayMicros + time) (htime : time < dayMicros) :
    m.dayNumber = day ∧ m.timeOfDay = time := by
  have hday : m.dayNumber = day := by
    rw [dayNumber, hm]
    exact Nat.div_eq_of_lt_le (Nat.le_add_right _ _) (by rw [Nat.succ_mul]; omega)
  have hparts := m.instant_eq
  rw [hday] at hparts
  exact ⟨hday, by omega⟩

theorem startOfDay_eq (m : Moment) :
    m.startOfDay.dayNumber = m.dayNumber ∧ m.startOfDay.timeOfDay = 0 :=
  day_and_time_of_instant (Nat.add_zero (m.dayNumber * dayMicros)).symm (by decide)

@[simp] theorem dayNumber_startOfDay (m : Moment) : m.startOfDay.dayNumber = m.dayNumber :=
  m.startOfDay_eq.1

@[simp] theorem timeOfDay_startOfDay (m : Moment) : m.startOfDay.timeOfDay = 0 :=
  m.startOfDay_eq.2

@[simp] theorem dayNumber_date (m : Moment) : m.date.dayNumber = m.dayNumber :=
  Date.dayNumber_ofDayNumber m.dayNumber

theorem dayNumber_lt_dayCount (m : Moment) : m.dayNumber < Calendar.dayCount := by
  rw [← dayNumber_date]
  exact Date.dayNumber_lt_dayCount m.isValid_date

theorem date_eq_iff {a b : Moment} : a.date = b.date ↔ a.dayNumber = b.dayNumber := by
  refine ⟨fun hdate => ?_, fun hday => congrArg Date.ofDayNumber hday⟩
  rw [← a.dayNumber_date, ← b.dayNumber_date, hdate]

theorem mul_dayMicros_le_instant_iff {m : Moment} {days : Nat} :
    days * dayMicros ≤ m.instant ↔ days ≤ m.dayNumber :=
  (Nat.le_div_iff_mul_le (by decide)).symm

theorem instant_lt_mul_dayMicros_iff {m : Moment} {days : Nat} :
    m.instant < days * dayMicros ↔ m.dayNumber < days :=
  (Nat.div_lt_iff_lt_mul (by decide)).symm

theorem exists_shift?_eq_some (m : Moment) {micros : Int} {instant : Nat}
    (hsum : (m.instant : Int) + micros = instant)
    (hin : instant < Calendar.dayCount * dayMicros) :
    ∃ moved, m.shift? micros = some moved ∧ moved.instant = instant := by
  refine ⟨⟨instant, hin⟩, ?_, rfl⟩
  rw [shift?, hsum, ofInstant?]
  exact dif_pos ⟨hin, Int.natCast_nonneg instant⟩

theorem instant_of_of?_eq_some {date : Date} {clock : Clock} {m : Moment}
    (hm : of? date clock = some m) : m.instant = date.dayNumber * dayMicros + clock.micros := by
  rw [of?] at hm
  split_ifs at hm
  rw [ofInstant?] at hm
  split_ifs at hm
  rw [← Option.some.inj hm]
  rfl

theorem of?_eq_some {date : Date} {clock : Clock} {m : Moment} (hdate : date.IsValid)
    (hclock : clock.IsValid) (hm : m.instant = date.dayNumber * dayMicros + clock.micros) :
    of? date clock = some m := by
  obtain ⟨found, hfound⟩ := exists_of?_eq_some hdate hclock
  have hinstant : found.instant = m.instant := (instant_of_of?_eq_some hfound).trans hm.symm
  cases found
  cases m
  rw [hfound]
  simpa using hinstant

theorem micros_clock (m : Moment) : m.clock.micros = m.timeOfDay := by
  simp only [clock, Clock.micros]
  omega

theorem isValid_clock (m : Moment) : m.clock.IsValid := by
  have htime := m.timeOfDay_lt
  rw [dayMicros] at htime
  simp only [Clock.IsValid, clock]
  omega

/-- The moment of a day with the time of day of another moment. -/
def atTimeOf (day m : Moment) : Moment :=
  ⟨day.dayNumber * dayMicros + m.timeOfDay, by
    have hday := Nat.mul_le_mul_right dayMicros (Nat.succ_le_of_lt day.dayNumber_lt_dayCount)
    have htime := m.timeOfDay_lt
    rw [Nat.succ_mul] at hday
    omega⟩

/-- A day and the time of day of a moment are a moment of the day. -/
theorem of?_date_clock (day m : Moment) : of? day.date m.clock = some (day.atTimeOf m) := by
  refine of?_eq_some day.isValid_date m.isValid_clock ?_
  rw [atTimeOf, dayNumber_date, micros_clock]

theorem of?_date_midnight (m : Moment) : of? m.date ⟨0, 0, 0, 0⟩ = some m.startOfDay := by
  refine of?_eq_some m.isValid_date (by decide) ?_
  have hmidnight : (⟨0, 0, 0, 0⟩ : Clock).micros = 0 := rfl
  rw [dayNumber_date, hmidnight, Nat.add_zero, startOfDay]

theorem atTimeOf_self (m : Moment) : m.atTimeOf m = m := by
  have hparts := m.instant_eq
  cases m
  simp only [atTimeOf]
  congr 1
  exact hparts.symm

end Moment

end RecordFilter
