import Mathlib.Data.Nat.Init
import Mathlib.Order.Monotone.Basic
import Mathlib.Tactic.Linarith
import RecordFilter.Calendar.Moment

/-!
Dates and day numbers: every day of the calendar has a date, and every date is found again from its
day number.
-/

namespace RecordFilter

namespace Calendar

theorem isLeap_iff {year : Nat} : isLeap year ↔ 4 ∣ year ∧ (¬ 100 ∣ year ∨ 400 ∣ year) := by
  simp only [isLeap, Bool.and_eq_true, Bool.or_eq_true, decide_eq_true_eq, ne_eq,
    Nat.dvd_iff_mod_eq_zero]

/-- A year in four has a leap day, but not one in a hundred unless it is one in four hundred. -/
theorem ite_isLeap (year : Nat) :
    (if isLeap year then 366 else 365) + (if 100 ∣ year then 1 else 0) =
      365 + (if 4 ∣ year then 1 else 0) + if 400 ∣ year then 1 else 0 := by
  simp only [isLeap_iff]
  by_cases hcycle : 400 ∣ year
  · have hhundred : 100 ∣ year := Nat.dvd_trans (by decide) hcycle
    have hfour : 4 ∣ year := Nat.dvd_trans (by decide) hcycle
    simp [hcycle, hhundred, hfour]
  · by_cases hhundred : 100 ∣ year
    · have hfour : 4 ∣ year := Nat.dvd_trans (by decide) hhundred
      simp [hcycle, hhundred, hfour]
    · by_cases hfour : 4 ∣ year <;> simp [hcycle, hhundred, hfour]

theorem daysBeforeYear_add_one (past : Nat) :
    daysBeforeYear (past + 1) + past / 100 = 365 * past + past / 4 + past / 400 := by
  have hle : past / 100 ≤ past / 4 := Nat.div_le_div_left (by decide) (by decide)
  rw [daysBeforeYear, Nat.add_sub_cancel]
  generalize past / 100 = hundreds at *
  generalize past / 4 = fours at *
  omega

theorem daysBeforeYear_succ {year : Nat} (hyear : 1 ≤ year) :
    daysBeforeYear (year + 1) = daysBeforeYear year + if isLeap year then 366 else 365 := by
  obtain ⟨past, rfl⟩ := Nat.exists_eq_add_of_le' hyear
  have hthis := daysBeforeYear_add_one past
  have hnext := daysBeforeYear_add_one (past + 1)
  have hleap := ite_isLeap (past + 1)
  rw [Nat.succ_div, Nat.succ_div, Nat.succ_div] at hnext
  linarith

theorem daysBeforeYear_mono : Monotone daysBeforeYear := by
  refine monotone_nat_of_le_succ fun year => ?_
  cases year with
  | zero => exact le_rfl
  | succ past =>
    rw [daysBeforeYear_succ (Nat.le_add_left 1 past)]
    exact Nat.le_add_right _ _

theorem daysBeforeYear_last : daysBeforeYear 10000 = dayCount := rfl

/-- Four hundred years have 146097 days, and years before a year are off their mean length by less
    than two days. -/
theorem daysBeforeYear_bounds (past : Nat) :
    146097 * past ≤ 400 * daysBeforeYear (past + 1) + 699 ∧
      400 * daysBeforeYear (past + 1) ≤ 146097 * past + 396 := by
  have hdays := daysBeforeYear_add_one past
  have hfours := Nat.div_add_mod past 4
  have hhundreds := Nat.div_add_mod past 100
  have hcycles := Nat.div_add_mod past 400
  have hfour := Nat.mod_lt past (show 0 < 4 by decide)
  have hhundred := Nat.mod_lt past (show 0 < 100 by decide)
  have hcycle := Nat.mod_lt past (show 0 < 400 by decide)
  generalize past / 4 = fours at *
  generalize past / 100 = hundreds at *
  generalize past / 400 = cycles at *
  generalize past % 4 = four at *
  generalize past % 100 = hundred at *
  generalize past % 400 = cycle at *
  constructor <;> omega

theorem one_le_daysInMonth (year month : Nat) : 1 ≤ daysInMonth year month := by
  unfold daysInMonth
  split_ifs <;> decide

theorem daysInMonth_le (year month : Nat) : daysInMonth year month ≤ 31 := by
  unfold daysInMonth
  split_ifs <;> decide

theorem daysBeforeMonth_succ (year : Nat) {month : Nat} (hmonth : 1 ≤ month) :
    daysBeforeMonth year (month + 1) = daysBeforeMonth year month + daysInMonth year month := by
  obtain ⟨past, rfl⟩ := Nat.exists_eq_add_of_le' hmonth
  simp only [daysBeforeMonth, Nat.add_sub_cancel, List.range_succ, List.foldl_append,
    List.foldl_cons, List.foldl_nil]

theorem daysBeforeMonth_mono (year : Nat) {first last : Nat} (hfirst : 1 ≤ first)
    (hle : first ≤ last) : daysBeforeMonth year first ≤ daysBeforeMonth year last := by
  induction last, hle using Nat.le_induction with
  | base => exact le_rfl
  | succ last hlast ih =>
    rw [daysBeforeMonth_succ year (hfirst.trans hlast)]
    omega

theorem daysBeforeMonth_thirteen (year : Nat) :
    daysBeforeMonth year 13 = if isLeap year then 366 else 365 := by
  cases hleap : isLeap year <;> simp [daysBeforeMonth, daysInMonth, List.range_succ, hleap]

/-- The months of a year fill it. -/
theorem daysBeforeYear_add_daysBeforeMonth {year : Nat} (hyear : 1 ≤ year) :
    daysBeforeYear year + daysBeforeMonth year 13 = daysBeforeYear (year + 1) := by
  rw [daysBeforeYear_succ hyear, daysBeforeMonth_thirteen]

theorem one_le_yearOf (day : Nat) : 1 ≤ yearOf day := by
  simp only [yearOf]
  split_ifs with hearly hlate
  · by_contra hnone
    have hzero : day * 400 / 146097 = 0 := by omega
    rw [hzero] at hearly
    exact absurd hearly (Nat.not_lt_zero day)
  · exact Nat.le_add_left 1 _
  · exact Nat.le_add_left 1 _

/-- The estimate by the mean length of a year is at most one off. -/
theorem yearOf_spec (day : Nat) :
    daysBeforeYear (yearOf day) ≤ day ∧ day < daysBeforeYear (yearOf day + 1) := by
  have hpos := one_le_yearOf day
  have hestimate := Nat.div_add_mod (day * 400) 146097
  have hrest := Nat.mod_lt (day * 400) (show 0 < 146097 by decide)
  simp only [yearOf] at hpos ⊢
  generalize day * 400 / 146097 = past at *
  generalize day * 400 % 146097 = rest at *
  split_ifs at hpos ⊢ with hearly hlate
  · obtain ⟨before, rfl⟩ := Nat.exists_eq_add_of_le' hpos
    have hbounds := (daysBeforeYear_bounds before).2
    rw [Nat.add_sub_cancel]
    exact ⟨by omega, hearly⟩
  · have hbounds := (daysBeforeYear_bounds (past + 1 + 1)).1
    exact ⟨hlate, by omega⟩
  · exact ⟨Nat.le_of_not_lt hearly, Nat.lt_of_not_le hlate⟩

theorem yearOf_le {day : Nat} (hday : day < dayCount) : yearOf day ≤ 9999 := by
  refine Nat.le_of_not_lt fun hlate => ?_
  have hmono := daysBeforeYear_mono (Nat.succ_le_of_lt hlate)
  have hyear := (yearOf_spec day).1
  rw [Nat.succ_eq_add_one, daysBeforeYear_last] at hmono
  omega

/-- The search ends in the month of the day, which keeps its place in the year. -/
theorem monthOf_spec (year : Nat) {month rest fuel : Nat} (hmonth : 1 ≤ month)
    (hrest : daysBeforeMonth year month + rest < daysBeforeMonth year (month + fuel + 1)) :
    let found := monthOf year month rest fuel
    (month ≤ found.1 ∧ found.1 ≤ month + fuel) ∧ found.2 < daysInMonth year found.1 ∧
      daysBeforeMonth year found.1 + found.2 = daysBeforeMonth year month + rest := by
  induction fuel generalizing month rest with
  | zero =>
    rw [Nat.add_zero, daysBeforeMonth_succ year hmonth] at hrest
    have hday : rest < daysInMonth year month := by omega
    exact ⟨⟨le_rfl, le_rfl⟩, hday, rfl⟩
  | succ fuel ih =>
    rw [monthOf]
    split_ifs with hhere
    · exact ⟨⟨le_rfl, Nat.le_add_right month _⟩, hhere, rfl⟩
    · have hsucc := daysBeforeMonth_succ year hmonth
      rw [← Nat.add_assoc, Nat.add_right_comm month] at hrest
      have hnext : daysBeforeMonth year (month + 1) + (rest - daysInMonth year month) <
          daysBeforeMonth year (month + 1 + fuel + 1) := by omega
      obtain ⟨⟨hfirst, hlast⟩, hday, hplace⟩ := ih (Nat.le_add_left 1 month) hnext
      exact ⟨⟨by omega, by omega⟩, hday, by omega⟩

end Calendar

namespace Date

open Calendar

private theorem monthOf_yearOf (day : Nat) :
    let found := monthOf (yearOf day) 1 (day - daysBeforeYear (yearOf day)) 11
    (1 ≤ found.1 ∧ found.1 ≤ 12) ∧ found.2 < daysInMonth (yearOf day) found.1 ∧
      daysBeforeYear (yearOf day) + daysBeforeMonth (yearOf day) found.1 + found.2 = day := by
  obtain ⟨hfirst, hlast⟩ := yearOf_spec day
  have hyear := daysBeforeYear_add_daysBeforeMonth (one_le_yearOf day)
  have hnone : daysBeforeMonth (yearOf day) 1 = 0 := rfl
  have hrest : daysBeforeMonth (yearOf day) 1 + (day - daysBeforeYear (yearOf day)) <
      daysBeforeMonth (yearOf day) (1 + 11 + 1) := by
    change _ < daysBeforeMonth (yearOf day) 13
    omega
  obtain ⟨hmonth, hday, hplace⟩ := monthOf_spec (yearOf day) le_rfl hrest
  exact ⟨hmonth, hday, by omega⟩

theorem isValid_ofDayNumber {day : Nat} (hday : day < dayCount) : (ofDayNumber day).IsValid := by
  obtain ⟨hmonth, hrest, -⟩ := monthOf_yearOf day
  exact ⟨⟨one_le_yearOf day, yearOf_le hday⟩, hmonth, Nat.le_add_left 1 _, hrest⟩

/-- The date of a day has the number of that day. -/
theorem dayNumber_ofDayNumber (day : Nat) : (ofDayNumber day).dayNumber = day :=
  (monthOf_yearOf day).2.2

theorem dayNumber_lt_dayCount {date : Date} (hdate : date.IsValid) : date.dayNumber < dayCount := by
  obtain ⟨⟨hyear, hlast⟩, ⟨hmonth, hend⟩, hday, hfits⟩ := hdate
  have hnext := daysBeforeMonth_succ date.year hmonth
  have hmonths : daysBeforeMonth date.year (date.month + 1) ≤ daysBeforeMonth date.year 13 :=
    daysBeforeMonth_mono date.year (Nat.le_add_left 1 date.month) (Nat.succ_le_succ hend)
  have hyears := daysBeforeYear_add_daysBeforeMonth hyear
  have hcalendar : daysBeforeYear (date.year + 1) ≤ dayCount :=
    daysBeforeYear_mono (Nat.succ_le_succ hlast)
  rw [dayNumber]
  omega

end Date

namespace Moment

theorem isValid_date (m : Moment) : m.date.IsValid := by
  refine Date.isValid_ofDayNumber ?_
  rw [dayNumber, Nat.div_lt_iff_lt_mul (by decide)]
  exact m.inRange

/-- Every date of the calendar has every time of day. -/
theorem exists_of?_eq_some {date : Date} {clock : Clock} (hdate : date.IsValid)
    (hclock : clock.IsValid) : ∃ m, of? date clock = some m := by
  have hday := Date.dayNumber_lt_dayCount hdate
  obtain ⟨hhour, hminute, hsecond, hmicro⟩ := hclock
  have hmicros : clock.micros < dayMicros := by
    simp only [Clock.micros, dayMicros]
    omega
  have hfits : date.dayNumber * dayMicros + clock.micros < Calendar.dayCount * dayMicros := by
    have hlast := Nat.mul_le_mul_right dayMicros (Nat.succ_le_of_lt hday)
    rw [Nat.succ_mul] at hlast
    omega
  refine ⟨⟨_, hfits⟩, ?_⟩
  have hinstant : ((date.dayNumber * dayMicros + clock.micros : Nat) : Int).toNat <
      Calendar.dayCount * dayMicros := hfits
  rw [of?, if_pos ⟨hdate, hhour, hminute, hsecond, hmicro⟩, ofInstant?, dif_pos]
  · rfl
  · exact ⟨hinstant, Int.natCast_nonneg _⟩

end Moment

end RecordFilter
