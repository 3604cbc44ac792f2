import RecordFilter.Proofs.Number.Whole
import RecordFilter.Proofs.Quantity.SizeText

/-!
Compact durations of whole numbers: what they add up to.

A compact duration is a row of parts, each a number and a unit of time. Where the numbers are whole
and the units are whole microseconds, the sum of fewer than `2 ^ 53` nanoseconds is not rounded,
whatever the number and the order of the parts (`readCompact_of_parts`).
-/

namespace RecordFilter.Duration

/-- The units that are whole microseconds, with their microseconds. The letter for `micro` is a
    sign of its own or a letter of the Greek alphabet. -/
def wholeUnits : List (Text × Nat) :=
  [("us".toList, 1), ("µs".toList, 1), ("μs".toList, 1), ("ms".toList, 1000), ("s".toList, 1000000),
    ("m".toList, 60000000), ("h".toList, 3600000000)]

/-- A part of a compact duration: a row of digits and a unit of whole microseconds. -/
structure Part where
  digits : Text
  unit : Text
  unitMicros : Nat
  isDigits : Text.Digits digits
  isUnit : (unit, unitMicros) ∈ wholeUnits

/-- The digits and the unit behind them. -/
def Part.text (part : Part) : Text :=
  part.digits ++ part.unit

/-- The microseconds of a part. -/
def Part.micros (part : Part) : Nat :=
  Text.ofDigits part.digits * part.unitMicros

/-- The parts, one behind the other. -/
def partsText (parts : List Part) : Text :=
  parts.flatMap Part.text

/-- The microseconds of all parts. -/
def partsMicros (parts : List Part) : Nat :=
  parts.foldr (fun part total => part.micros + total) 0

theorem partsText_cons (part : Part) (parts : List Part) :
    partsText (part :: parts) = part.text ++ partsText parts :=
  List.flatMap_cons

theorem partsMicros_cons (part : Part) (parts : List Part) :
    partsMicros (part :: parts) = part.micros + partsMicros parts :=
  rfl

/-- The signs in front of a duration, and whether they make it negative. -/
def signs : List (Text × Bool) :=
  [([], false), (['+'], false), (['-'], true)]

variable {unit rest : Text} {unitMicros total fuel : Nat}

theorem unit_begins (hunit : (unit, unitMicros) ∈ wholeUnits) :
    ∃ c tail, unit = c :: tail ∧ ¬ Text.isPlainDigit c ∧ c ≠ '.' := by
  simp only [wholeUnits, List.mem_cons, Prod.mk.injEq, List.not_mem_nil, or_false] at hunit
  rcases hunit with ⟨rfl, -⟩ | ⟨rfl, -⟩ | ⟨rfl, -⟩ | ⟨rfl, -⟩ | ⟨rfl, -⟩ | ⟨rfl, -⟩ | ⟨rfl, -⟩ <;>
    exact ⟨_, _, rfl, by decide, by decide⟩

theorem unitMicros_bounds (hunit : (unit, unitMicros) ∈ wholeUnits) :
    0 < unitMicros ∧ unitMicros * 1000 < 2 ^ 53 := by
  have hbounds : ∀ entry ∈ wholeUnits, 0 < entry.2 ∧ entry.2 * 1000 < 2 ^ 53 := by decide
  exact hbounds _ hunit

/-- A unit is taken as a whole where a digit follows or nothing, though `m` begins `ms` too. -/
theorem takeUnit?_append (hunit : (unit, unitMicros) ∈ wholeUnits)
    (hrest : ∀ c, rest.head? = some c → Text.isPlainDigit c) :
    takeUnit? (unit ++ rest) = some (unitMicros * 1000, rest) := by
  have hminute : takeUnit? ('m' :: rest) = some (60000000 * 1000, rest) := by
    cases rest with
    | nil => rfl
    | cons c rest =>
      have hs : c ≠ 's' := by
        rintro rfl
        exact absurd (hrest 's' rfl) (by decide)
      simp [takeUnit?, hs]
  simp only [wholeUnits, List.mem_cons, Prod.mk.injEq, List.not_mem_nil, or_false] at hunit
  rcases hunit with ⟨rfl, rfl⟩ | ⟨rfl, rfl⟩ | ⟨rfl, rfl⟩ | ⟨rfl, rfl⟩ | ⟨rfl, rfl⟩ | ⟨rfl, rfl⟩ |
    ⟨rfl, rfl⟩
  case inr.inr.inr.inr.inr.inl => exact hminute
  all_goals rfl

theorem value_of_digits (digits : Text) :
    Numeral.DecimalForm.value false ⟨digits, [], 0⟩ = Binary64.ofRatio (Text.ofDigits digits) 1 := by
  have hnumber := Binary64.ofDecimal_zero_exponent false (Text.ofDigits digits)
  rw [Numeral.DecimalForm.value, List.append_nil]
  exact hnumber

/-- A part is taken off with its nanoseconds where the next part follows or nothing. -/
theorem takePart?_append (part : Part) (hfits : part.micros * 1000 < 2 ^ 53)
    (hrest : ∀ c, rest.head? = some c → Text.isPlainDigit c) :
    takePart? (part.text ++ rest) = some (Binary64.ofRatio (part.micros * 1000) 1, rest) := by
  obtain ⟨c, tail, hunit, hc⟩ := unit_begins part.isUnit
  obtain ⟨hpos, hunitFits⟩ := unitMicros_bounds part.isUnit
  have hparts : Numeral.Parts part.digits [] := ⟨part.isDigits, List.forall_mem_nil _⟩
  have hnumber : takeNumber (part.digits ++ (part.unit ++ rest)) =
      some (Binary64.ofRatio (Text.ofDigits part.digits) 1, part.unit ++ rest) := by
    rw [← value_of_digits]
    refine hparts.takeNumber_eq fun d hd => ?_
    rw [hunit] at hd
    exact Option.some.inj hd ▸ hc
  have hdigits : Text.ofDigits part.digits < 2 ^ 53 := by
    have hle : Text.ofDigits part.digits ≤ part.micros := Nat.le_mul_of_pos_right _ hpos
    omega
  rw [takePart?, Part.text, List.append_assoc, hnumber]
  simp only [Option.bind_eq_bind, Option.bind_some, takeUnit?_append part.isUnit hrest,
    Binary64.mul_whole hdigits hunitFits]
  rw [← Nat.mul_assoc]
  rfl

theorem partsText_begins (parts : List Part) :
    ∀ c, (partsText parts).head? = some c → Text.isPlainDigit c := by
  cases parts with
  | nil => nofun
  | cons part parts =>
    intro c hc
    obtain ⟨d, digits, hdigits⟩ := List.exists_cons_of_ne_nil part.isDigits.ne_nil
    rw [partsText, List.flatMap_cons, Part.text, hdigits] at hc
    rw [← Option.some.inj hc]
    exact part.isDigits.plain d (by rw [hdigits]; exact List.mem_cons_self)

/-- What is added up stays whole, and so it is not rounded at any part. -/
theorem sumParts_partsText {parts : List Part} (hfuel : (partsText parts).length ≤ fuel)
    (hfits : (total + partsMicros parts) * 1000 < 2 ^ 53) :
    sumParts fuel (Binary64.ofRatio (total * 1000) 1) (partsText parts) =
      some (Binary64.ofRatio ((total + partsMicros parts) * 1000) 1) := by
  induction parts generalizing fuel total with
  | nil =>
    have hzero : partsMicros [] = 0 := rfl
    rw [hzero, Nat.add_zero, partsText, List.flatMap_nil]
    cases fuel <;> rw [sumParts]
  | cons part parts ih =>
    rw [partsMicros_cons, ← Nat.add_assoc] at hfits ⊢
    rw [partsText_cons] at hfuel ⊢
    have hthis : total + part.micros ≤ total + part.micros + partsMicros parts :=
      Nat.le_add_right _ _
    have hsum := Nat.lt_of_le_of_lt (Nat.mul_le_mul_right 1000 hthis) hfits
    have hpart := Nat.lt_of_le_of_lt (Nat.mul_le_mul_right 1000 (Nat.le_add_left _ total)) hsum
    have htake := takePart?_append part hpart (partsText_begins parts)
    obtain ⟨c, digits, hdigits⟩ := List.exists_cons_of_ne_nil part.isDigits.ne_nil
    have hcons : part.text ++ partsText parts = c :: (digits ++ part.unit ++ partsText parts) := by
      rw [Part.text, hdigits]
      rfl
    rw [hcons, List.length_cons, List.length_append] at hfuel
    obtain ⟨fuel, rfl⟩ := Nat.exists_eq_add_of_le' (Nat.le_of_add_left_le hfuel)
    rw [hcons] at htake ⊢
    rw [Nat.add_mul] at hsum
    rw [sumParts, htake]
    · simp only [Option.bind_eq_bind, Option.bind_some]
      rw [Binary64.add_whole hsum, ← Nat.add_mul]
      exact ih (by omega) hfits
    · exact List.cons_ne_nil _ _

theorem ofNanos?_whole (negative : Bool) {micros : Nat} (hfits : micros * 1000 < 2 ^ 53) :
    ofNanos? negative (Binary64.ofRatio (micros * 1000) 1) =
      ofMicros? (if negative then -(micros : Int) else micros) := by
  have hsigned : (if negative then (Binary64.ofRatio (micros * 1000) 1).neg
      else Binary64.ofRatio (micros * 1000) 1) =
      .finite negative (micros * 1000 * Binary64.scale) (Binary64.representable_whole hfits) := by
    rw [Binary64.ofRatio_whole hfits]
    cases negative <;> rfl
  have hmicros : micros < 2 ^ 53 :=
    Nat.lt_of_le_of_lt (Nat.le_mul_of_pos_right micros (by decide)) hfits
  rw [ofNanos?, hsigned, Binary64.div_whole negative hmicros (by decide) (by decide)]
  simp only [Option.bind_eq_bind, Binary64.nearestInt?_whole, Option.bind_some]

theorem exists_ofMicros?_whole (negative : Bool) {micros : Nat} (hfits : micros * 1000 < 2 ^ 53) :
    ∃ d, ofMicros? (if negative then -(micros : Int) else micros) = some d ∧
      d.micros = if negative then -(micros : Int) else micros := by
  have hmicros : micros < 2 ^ 53 :=
    Nat.lt_of_le_of_lt (Nat.le_mul_of_pos_right micros (by decide)) hfits
  have hrange : -999999999 * microsPerDay ≤ (if negative then -(micros : Int) else micros) ∧
      (if negative then -(micros : Int) else micros) < 1000000000 * microsPerDay := by
    simp only [microsPerDay, microsPerSecond]
    split <;> omega
  exact ⟨⟨_, hrange⟩, dif_pos hrange, rfl⟩

/-- A sign is taken off in front of digits. -/
theorem takeSign_append {sign digits : Text} {negative : Bool} (hsign : (sign, negative) ∈ signs)
    (hdigits : Text.Digits digits) (rest : Text) :
    Numeral.takeSign (sign ++ (digits ++ rest)) = (negative, digits ++ rest) := by
  simp only [signs, List.mem_cons, Prod.mk.injEq, List.not_mem_nil, or_false] at hsign
  rcases hsign with ⟨rfl, rfl⟩ | ⟨rfl, rfl⟩ | ⟨rfl, rfl⟩
  · rw [List.nil_append]
    exact Numeral.takeSign_of_digits hdigits
  · rfl
  · rfl

/-- Whole numbers with units of whole microseconds add up to exactly their sum, if it is less than
    `2 ^ 53` nanoseconds, with either sign and whatever the number and the order of the parts. -/
theorem readCompact_of_parts {sign : Text} {negative : Bool} {parts : List Part}
    (hsign : (sign, negative) ∈ signs) (hparts : parts ≠ [])
    (hfits : partsMicros parts * 1000 < 2 ^ 53) :
    ∃ d, readCompact (sign ++ partsText parts) = .ok d ∧
      d.micros = if negative then -(partsMicros parts : Int) else partsMicros parts := by
  obtain ⟨d, hmicros, hd⟩ := exists_ofMicros?_whole negative hfits
  refine ⟨d, ?_, hd⟩
  have hsum : sumParts (partsText parts).length (Binary64.zero false) (partsText parts) =
      some (Binary64.ofRatio (partsMicros parts * 1000) 1) := by
    have hfits' : (0 + partsMicros parts) * 1000 < 2 ^ 53 := by rwa [Nat.zero_add]
    have hrun := sumParts_partsText (Nat.le_refl _) hfits'
    rwa [Nat.zero_mul, Binary64.ofRatio_zero, Nat.zero_add] at hrun
  obtain ⟨part, others, rfl⟩ := List.exists_cons_of_ne_nil hparts
  obtain ⟨c, tail, hunit, hletter, -⟩ := unit_begins part.isUnit
  have hsplit : partsText (part :: others) = part.digits ++ (part.unit ++ partsText others) := by
    rw [partsText_cons, Part.text, List.append_assoc]
  have htake := takeSign_append hsign part.isDigits (part.unit ++ partsText others)
  rw [← hsplit] at htake
  have hmem : c ∈ partsText (part :: others) := by
    rw [hsplit, hunit]
    simp
  have hnot : partsText (part :: others) ≠ ['0'] := by
    intro hzero
    rw [hzero, List.mem_singleton] at hmem
    exact hletter (hmem ▸ by decide)
  have hempty : ¬ (partsText (part :: others)).isEmpty := by
    rw [List.isEmpty_iff]
    exact List.ne_nil_of_mem hmem
  simp only [readCompact, htake, if_neg hnot, hempty, hsum, ofNanos?_whole negative hfits, hmicros]
  rfl

/-- Minutes before milliseconds and hours, a number with zeros in front, a letter for `micro`. -/
def mixedParts : List Part :=
  [⟨"3".toList, "m".toList, 60000000, ⟨by decide, by decide⟩, by decide⟩,
    ⟨"007".toList, "ms".toList, 1000, ⟨by decide, by decide⟩, by decide⟩,
    ⟨"12".toList, "µs".toList, 1, ⟨by decide, by decide⟩, by decide⟩,
    ⟨"1".toList, "h".toList, 3600000000, ⟨by decide, by decide⟩, by decide⟩]

theorem readCompact_of_mixedParts :
    ((['-'], true) ∈ signs ∧ mixedParts ≠ [] ∧ partsMicros mixedParts * 1000 < 2 ^ 53) ∧
      ∃ d, readCompact "-3m007ms12µs1h".toList = .ok d ∧ d.micros = -3780007012 := by
  have hsign : (['-'], true) ∈ signs := by decide
  have hparts : mixedParts ≠ [] := List.cons_ne_nil _ _
  have hfits : partsMicros mixedParts * 1000 < 2 ^ 53 := by decide
  refine ⟨⟨hsign, hparts, hfits⟩, ?_⟩
  have htext : ['-'] ++ partsText mixedParts = "-3m007ms12µs1h".toList := by decide
  have hread := readCompact_of_parts hsign hparts hfits
  rw [htext] at hread
  exact hread

end RecordFilter.Duration
