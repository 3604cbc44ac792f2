import Mathlib.Algebra.Order.Field.Rat
import RecordFilter.Proofs.Number.Whole
import RecordFilter.Proofs.Quantity.SizeText

/-!
The order of memory sizes.

The number of a size is rounded before it is multiplied by its unit, and the fraction of the product
is dropped. A unit is a power of two, so what is left is the whole part of the exact size, rounded
once (`SizeForm.truncate?_product`). Rounding keeps the order, and so a lesser size never has more
bytes than a greater one, in whatever units they are written
(`readSize_order_and_whole_numbers`).
-/

namespace RecordFilter.Quantity

open Binary64

/-- The units in capitals, with the powers of two that they stand for. -/
def units : List (Text × Nat) :=
  [("".toList, 0), ("B".toList, 0), ("K".toList, 10), ("KB".toList, 10), ("M".toList, 20),
    ("MB".toList, 20), ("G".toList, 30), ("GB".toList, 30), ("T".toList, 40), ("TB".toList, 40)]

theorem unitBits?_of_mem_units {unit : Text} {bits : Nat} (hunit : (unit, bits) ∈ units) :
    unitBits? unit = some bits := by
  have hall : ∀ entry ∈ units, unitBits? entry.1 = some entry.2 := by decide
  exact hall _ hunit

theorem bits_le_of_mem_units {unit : Text} {bits : Nat} (hunit : (unit, bits) ∈ units) :
    bits ≤ 40 := by
  have hall : ∀ entry ∈ units, entry.2 ≤ 40 := by decide
  exact hall _ hunit

namespace SizeForm

variable {form other : SizeForm} {t s : Text}

/-- The digits of the number, without the point. -/
def digits (form : SizeForm) : Nat :=
  Text.ofDigits (form.whole ++ form.fraction)

/-- The power of ten that the digits are divided by. -/
def tens (form : SizeForm) : Nat :=
  10 ^ form.fraction.length

/-- The number of the size. -/
def exactNumber (form : SizeForm) : ℚ :=
  form.digits / form.tens

/-- The size in bytes: the number times the unit. -/
def exactSize (form : SizeForm) : ℚ :=
  form.exactNumber * 2 ^ form.bits

/-- The text is the size, in any letter case: in capitals and without outer blanks it is the number
    of the form, blanks or none, and the unit of the form. -/
structure IsWritten (form : SizeForm) (t : Text) : Prop where
  parts : Numeral.Parts form.whole form.fraction
  text : ∃ gap unit, Text.upper (Text.trim t) =
    Numeral.plainText form.whole form.fraction ++ (gap ++ unit) ∧
      (∀ c ∈ gap, Text.isBlank c) ∧ (unit, form.bits) ∈ units

theorem tens_pos (form : SizeForm) : 0 < form.tens :=
  Nat.pow_pos (by decide)

theorem exactSize_eq (form : SizeForm) :
    form.exactSize = ((form.digits * 2 ^ form.bits : Nat) : ℚ) / form.tens := by
  rw [exactSize, exactNumber]
  push_cast
  ring

/-- The order of sizes without fractions. -/
theorem exactSize_le_iff : form.exactSize ≤ other.exactSize ↔
    form.digits * 2 ^ form.bits * other.tens ≤ other.digits * 2 ^ other.bits * form.tens := by
  have htens : (0 : ℚ) < form.tens := Nat.cast_pos.mpr form.tens_pos
  have hother : (0 : ℚ) < other.tens := Nat.cast_pos.mpr other.tens_pos
  rw [exactSize_eq, exactSize_eq, div_le_div_iff₀ htens hother]
  exact_mod_cast Iff.rfl

theorem exactNumber_eq_iff {n : Nat} : form.exactNumber = n ↔ form.digits = n * form.tens := by
  have htens : (form.tens : ℚ) ≠ 0 := Nat.cast_ne_zero.mpr (Nat.ne_of_gt form.tens_pos)
  rw [exactNumber, div_eq_iff htens]
  exact_mod_cast Iff.rfl

theorem number_eq (form : SizeForm) :
    form.number = rounded false (form.digits * scale) form.tens := by
  rw [number, Numeral.DecimalForm.value]
  change ofDecimal false form.digits _ = _
  by_cases hdigits : form.digits = 0
  · have hzero := rounded_mul_of_representable false representable_zero form.tens_pos
    rw [Nat.zero_mul] at hzero
    rw [hdigits, Nat.zero_mul, hzero]
    exact if_pos rfl
  · have hpositive : ((0 : Int) - form.fraction.length).toNat = 0 := by omega
    have hnegative : (-((0 : Int) - form.fraction.length)).toNat = form.fraction.length := by omega
    rw [ofDecimal_eq_rounded false _ hdigits, hpositive, hnegative, Nat.pow_zero, Nat.mul_one, tens]

/-- The whole part of the product is that of the exact size, rounded once. -/
theorem truncate?_product (hbits : form.bits ≤ 40) : form.product.truncate? =
    (rounded false (form.digits * 2 ^ form.bits * scale) form.tens).truncate? := by
  have hbits' : form.bits ≤ 900 := by omega
  rw [product, number_eq, Nat.pow_eq, truncate?_mul_two_pow form.tens_pos hbits',
    Nat.mul_right_comm]

theorem IsWritten.bits_le (ht : form.IsWritten t) : form.bits ≤ 40 := by
  obtain ⟨gap, unit, -, -, hunit⟩ := ht.text
  exact bits_le_of_mem_units hunit

/-- A text of a size is read as the whole part of its exact size, rounded, if that is in range. -/
theorem IsWritten.readSize_eq_ok_iff (ht : form.IsWritten t) {bytes : Int} :
    readSize t = .ok bytes ↔
      (rounded false (form.digits * 2 ^ form.bits * scale) form.tens).truncate? = some bytes := by
  obtain ⟨gap, unit, htext, hgap, hunit⟩ := ht.text
  have hspells : Spells (Text.upper (Text.trim t)) form gap unit :=
    ⟨htext, ht.parts, hgap, unitBits?_of_mem_units hunit⟩
  rw [← truncate?_product ht.bits_le, readSize, hspells.read?_eq]
  dsimp only
  split
  · rename_i hnone
    simp [hnone]
  · rename_i some hsome
    simp [hsome]

/-- A size with a whole number below `2 ^ 53` is not rounded. -/
theorem truncate?_of_whole {n : Nat} (hform : form.digits = n * form.tens) (hn : n < 2 ^ 53)
    (hbits : form.bits ≤ 40) :
    (rounded false (form.digits * 2 ^ form.bits * scale) form.tens).truncate? =
      some ((n * 2 ^ form.bits : Nat) : Int) := by
  have hbits' : form.bits ≤ 900 := by omega
  have hexact : form.digits * 2 ^ form.bits * scale =
      n * 2 ^ form.bits * scale * form.tens := by
    rw [hform]
    ring
  rw [hexact, rounded_mul_of_representable false (representable_mul_scale hn hbits') form.tens_pos,
    truncate?, Nat.mul_div_cancel _ scale_pos]
  rfl

end SizeForm

/-- Sizes keep their order: if the greater of two sizes is read, so is the lesser one, and not as more
    bytes. And a whole number below `2 ^ 53` with a unit is read as exactly their product. -/
theorem readSize_order_and_whole_numbers {form other : SizeForm} {t s : Text}
    (ht : form.IsWritten t) (hs : other.IsWritten s) :
    (form.exactSize ≤ other.exactSize → ∀ most, readSize s = .ok most →
      ∃ bytes, readSize t = .ok bytes ∧ bytes ≤ most) ∧
    ∀ n : Nat, form.exactNumber = n → n < 2 ^ 53 → readSize t = .ok (n * 2 ^ form.bits : Nat) := by
  constructor
  · intro hle most hmost
    have hquanta : form.digits * 2 ^ form.bits * scale * other.tens ≤
        other.digits * 2 ^ other.bits * scale * form.tens := by
      rw [Nat.mul_right_comm, Nat.mul_right_comm _ scale form.tens]
      exact Nat.mul_le_mul_right scale (SizeForm.exactSize_le_iff.mp hle)
    obtain ⟨bytes, hbytes, hmost⟩ := exists_truncate?_rounded_le form.tens_pos other.tens_pos hquanta
      (hs.readSize_eq_ok_iff.mp hmost)
    exact ⟨bytes, ht.readSize_eq_ok_iff.mpr hbytes, hmost⟩
  · intro n hnumber hn
    have hdigits := SizeForm.exactNumber_eq_iff.mp hnumber
    exact ht.readSize_eq_ok_iff.mpr (SizeForm.truncate?_of_whole hdigits hn ht.bits_le)

/-- One size in two units, the second number with a fraction and a zero at its end. -/
theorem readSize_order_of_gigabytes :
    let gigabytes : SizeForm := ⟨"1536".toList, [], 30⟩
    let terabytes : SizeForm := ⟨"1".toList, "50".toList, 40⟩
    (gigabytes.IsWritten "1536 gB".toList ∧ terabytes.IsWritten " 1.50T".toList ∧
      gigabytes.exactSize ≤ terabytes.exactSize ∧ gigabytes.exactNumber = (1536 : Nat) ∧
        readSize " 1.50T".toList = .ok 1649267441664) ∧
    (∃ bytes, readSize "1536 gB".toList = .ok bytes ∧ bytes ≤ 1649267441664) ∧
      readSize "1536 gB".toList = .ok (1536 * 2 ^ 30 : Nat) := by
  intro gigabytes terabytes
  have hgigabytes : gigabytes.IsWritten "1536 gB".toList :=
    ⟨⟨⟨by decide, by decide⟩, by decide⟩, [' '], "GB".toList, by decide, by decide, by decide⟩
  have hterabytes : terabytes.IsWritten " 1.50T".toList :=
    ⟨⟨⟨by decide, by decide⟩, by decide⟩, [], "T".toList, by decide, by decide, by decide⟩
  have hle : gigabytes.exactSize ≤ terabytes.exactSize :=
    SizeForm.exactSize_le_iff.mpr (by decide)
  have hnumber : gigabytes.exactNumber = (1536 : Nat) :=
    SizeForm.exactNumber_eq_iff.mpr (by decide)
  have hmost : readSize " 1.50T".toList = .ok 1649267441664 := by decide +kernel
  obtain ⟨horder, hwhole⟩ := readSize_order_and_whole_numbers hgigabytes hterabytes
  exact ⟨⟨hgigabytes, hterabytes, hle, hnumber, hmost⟩, horder hle _ hmost,
    hwhole 1536 hnumber (by decide)⟩

end RecordFilter.Quantity
