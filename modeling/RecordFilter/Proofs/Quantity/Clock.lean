import Mathlib.Data.List.Infix
import RecordFilter.Proofs.Number.Digits
import RecordFilter.Proofs.Outcome
import RecordFilter.Proofs.Text.Pieces
import RecordFilter.Proofs.Text.Search
import RecordFilter.Quantity.Duration

/-!
The clock form of durations: a duration of whole seconds is read back from it.
-/

namespace RecordFilter

/-- A text that begins with digits and goes on with a colon or a hyphen, as clock forms do. -/
structure Clocklike (t : Text) : Prop where
  begins : ∃ lead mark rest, t = lead ++ mark :: rest ∧ Text.Digits lead ∧ (mark = ':' ∨ mark = '-')
  characters : ∀ c ∈ t, Text.isPlainDigit c ∨ c = ':' ∨ c = '-'

theorem Clocklike.not_isBlank {t : Text} (ht : Clocklike t) : ∀ c ∈ t, ¬ Text.isBlank c :=
  fun c hc => Text.not_isBlank_of_clock (ht.characters c hc)

namespace Duration

theorem digits_twoDigits (n : Nat) : Text.Digits (twoDigits n) :=
  Text.digits_padStart 2 (Text.digits_ofNat n)

private theorem readInteger_twoDigits {n : Nat} (hn : n < 100) :
    Quantity.readInteger (twoDigits n) = .ok n := by
  have hlength : (Text.ofNat n).length ≤ 2 := (Text.length_ofNat_le_iff (by decide)).mpr hn
  have hshort : (twoDigits n).length ≤ digitLimit := by
    simp only [twoDigits, Text.padStart, List.length_append, List.length_replicate, digitLimit]
    omega
  rw [Quantity.readInteger_of_digits (digits_twoDigits n) hshort, twoDigits, Text.ofDigits_padStart,
    Text.ofDigits_ofNat]

private theorem readInteger_ofNat {n : Nat} (hn : n < 10 ^ 9) :
    Quantity.readInteger (Text.ofNat n) = .ok n := by
  have hlength : (Text.ofNat n).length ≤ 9 := (Text.length_ofNat_le_iff (by decide)).mpr hn
  have hshort : (Text.ofNat n).length ≤ digitLimit :=
    Nat.le_trans hlength (by decide)
  rw [Quantity.readInteger_of_digits (Text.digits_ofNat n) hshort, Text.ofDigits_ofNat]

/-- The clock part of a clock form, from its hours on. -/
private def clockText (hours : Text) (minutes seconds : Nat) : Text :=
  hours ++ ':' :: (twoDigits minutes ++ ':' :: twoDigits seconds)

private theorem readClock_clockText {hours : Text} {h m s : Nat} (hhours : Text.Digits hours)
    (hread : Quantity.readInteger hours = .ok h) (hm : m < 100) (hs : s < 100) :
    readClock (clockText hours m s) = .ok (h * 3600 + m * 60 + s : Int) := by
  have hcolon : ¬ Text.isPlainDigit ':' := by decide
  have hsplit : Text.splitOn [':'] (clockText hours m s) = [hours, twoDigits m, twoDigits s] := by
    rw [clockText, Text.splitOn_append_cons (hhours.not_mem hcolon),
      Text.splitOn_append_cons ((digits_twoDigits m).not_mem hcolon),
      Text.splitOn_of_not_mem ((digits_twoDigits s).not_mem hcolon)]
  rw [readClock, hsplit]
  simp only [hread, readInteger_twoDigits hm, readInteger_twoDigits hs]
  rfl

private theorem characters_clockText {hours : Text} (hhours : Text.Digits hours) (m s : Nat) :
    ∀ c ∈ clockText hours m s, Text.isPlainDigit c ∨ c = ':' ∨ c = '-' := by
  intro c hc
  simp only [clockText, List.mem_append, List.mem_cons] at hc
  rcases hc with hc | rfl | hc | rfl | hc
  · exact Or.inl (hhours.plain c hc)
  · exact Or.inr (Or.inl rfl)
  · exact Or.inl ((digits_twoDigits m).plain c hc)
  · exact Or.inr (Or.inl rfl)
  · exact Or.inl ((digits_twoDigits s).plain c hc)

/-- Whole seconds, and not before zero. -/
structure Whole (d : Duration) : Prop where
  nonneg : 0 ≤ d.micros
  seconds : d.micros % 1000000 = 0

private theorem exists_text_eq {d : Duration} (hd : d.Whole) :
    ∃ days hours minutes seconds : Nat,
      d.micros = (days * 86400 + (hours * 3600 + minutes * 60 + seconds : Int)) * 1000000 ∧
      days < 10 ^ 9 ∧ hours < 100 ∧ minutes < 100 ∧ seconds < 100 ∧
      d.text =
        if days = 0 then clockText (Text.ofNat hours) minutes seconds
        else Text.ofNat days ++ '-' :: clockText (twoDigits hours) minutes seconds := by
  have hnonneg := hd.nonneg
  have hseconds := hd.seconds
  have hrange := d.inRange.2
  simp only [microsPerDay, microsPerSecond] at hrange
  have hfraction : d.micros.natAbs % 1000000 = 0 := by omega
  refine ⟨d.micros.natAbs / 1000000 / 86400, d.micros.natAbs / 1000000 % 86400 / 3600,
    d.micros.natAbs / 1000000 % 3600 / 60, d.micros.natAbs / 1000000 % 60, by omega, by omega,
    by omega, by omega, by omega, ?_⟩
  rw [text, if_neg (Int.not_lt.mpr hnonneg), if_pos hfraction, List.append_nil]
  by_cases hdays : d.micros.natAbs / 1000000 / 86400 = 0
  · rw [if_pos hdays, if_pos hdays]
    simp [clockText]
  · rw [if_neg hdays, if_neg hdays]
    simp [clockText]

theorem clocklike_text {d : Duration} (hd : d.Whole) : Clocklike d.text := by
  obtain ⟨days, hours, minutes, seconds, -, -, -, -, -, htext⟩ := exists_text_eq hd
  rw [htext]
  split
  · have hhours := Text.digits_ofNat hours
    exact ⟨⟨_, _, _, rfl, hhours, Or.inl rfl⟩, characters_clockText hhours _ _⟩
  · have hdigits := Text.digits_ofNat days
    refine ⟨⟨_, _, _, rfl, hdigits, Or.inr rfl⟩, ?_⟩
    intro c hc
    rw [List.mem_append, List.mem_cons] at hc
    rcases hc with hc | rfl | hc
    · exact Or.inl (hdigits.plain c hc)
    · exact Or.inr (Or.inr rfl)
    · exact characters_clockText (digits_twoDigits _) _ _ c hc

private theorem splitDays_clockText {hours : Text} (hhours : Text.Digits hours) (m s : Nat) :
    splitDays (clockText hours m s) = .ok (0, clockText hours m s) := by
  have hhyphen : ¬ Text.isPlainDigit '-' := by decide
  have hnot : '-' ∉ clockText hours m s := by
    simp [clockText, hhours.not_mem hhyphen, (digits_twoDigits m).not_mem hhyphen,
      (digits_twoDigits s).not_mem hhyphen]
  have hcut : Text.cut? ['-'] (clockText hours m s) = none := by
    rwa [Text.cut?_eq_none_iff, List.singleton_infix_iff]
  rw [splitDays, hcut]

private theorem splitDays_append {days clock : Text} {n : Nat} (hdays : Text.Digits days)
    (hread : Quantity.readInteger days = .ok n) :
    splitDays (days ++ '-' :: clock) = .ok (n, clock) := by
  have hclear : Text.Clear ['-'] days ('-' :: clock) :=
    Text.clear_of_not_mem (hdays.not_mem (by decide))
  have hself : Text.cut? ['-'] ('-' :: clock) = some ([], clock) := Text.cut?_append_self
  have hcut : Text.cut? ['-'] (days ++ '-' :: clock) = some (days, clock) := by
    rw [Text.cut?_append_of_clear hclear, hself]
    simp
  simp [splitDays, hcut, hread, Except.map]

private theorem readCluster_eq {t clock : Text} {d : Duration} {days seconds : Int}
    (ht : Clocklike t) (hcolon : ':' ∈ t) (hsplit : splitDays t = .ok (days, clock))
    (hclock : readClock clock = .ok seconds)
    (hmicros : d.micros = (days * 86400 + seconds) * 1000000) : readCluster t = .ok d := by
  have hrange : ofSeconds? (days * 86400 + seconds) = some d := by
    obtain ⟨micros, hin⟩ := d
    obtain rfl := hmicros
    rw [ofSeconds?, ofMicros?, microsPerSecond, dif_pos hin]
  simp only [readCluster, Text.trim_eq_self_of_not_isBlank ht.not_isBlank, if_pos hcolon, hsplit,
    bind, Except.bind, hclock, hrange]

/-- The clock form of a span of whole seconds is read as the span. -/
theorem readCluster_text {d : Duration} (hd : d.Whole) : readCluster d.text = .ok d := by
  have hlike := clocklike_text hd
  obtain ⟨days, hours, minutes, seconds, hmicros, hdays, hhours, hminutes, hseconds, htext⟩ :=
    exists_text_eq hd
  have hcolon : ':' ∈ d.text := by
    rw [htext]
    split <;> simp [clockText]
  by_cases hzero : days = 0
  · rw [if_pos hzero] at htext
    have hsplit := splitDays_clockText (Text.digits_ofNat hours) minutes seconds
    rw [← htext] at hsplit
    have hread := readInteger_ofNat (Nat.lt_trans hhours (by decide))
    have hclock := readClock_clockText (Text.digits_ofNat hours) hread hminutes hseconds
    rw [← htext] at hclock
    exact readCluster_eq hlike hcolon hsplit hclock (by omega)
  · rw [if_neg hzero] at htext
    have hsplit : splitDays d.text = .ok (days, clockText (twoDigits hours) minutes seconds) := by
      rw [htext]
      exact splitDays_append (Text.digits_ofNat days) (readInteger_ofNat hdays)
    have hclock := readClock_clockText (digits_twoDigits hours) (readInteger_twoDigits hhours)
      hminutes hseconds
    exact readCluster_eq hlike hcolon hsplit hclock hmicros

end Duration

end RecordFilter
