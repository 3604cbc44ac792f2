import RecordFilter.Proofs.Number.Nearest

/-!
Decimals as floating point numbers: the number nearest to a decimal depends on nothing but its value,
however many zeros it is written with.
-/

namespace RecordFilter.Binary64

variable {digits : Nat} {exponent : Int}

/-- A decimal beyond the range is rounded out of it, so its quanta need not be computed. -/
theorem not_representable_of_exponent (hdigits : digits ≠ 0) (hexponent : 400 < exponent) :
    ¬ Representable (roundQuanta (digits * 10 ^ exponent.toNat * scale) 1) := by
  obtain ⟨zeros, hzeros, hlimit⟩ : ∃ zeros ≤ 400, integerLimit ≤ 10 ^ zeros :=
    ⟨400, by decide, by decide +kernel⟩
  have hpower : 10 ^ zeros ≤ 10 ^ exponent.toNat := Nat.pow_le_pow_right (by decide) (by omega)
  rw [representable_rounded_iff, Nat.not_lt]
  exact Nat.le_trans (Nat.le_trans hlimit hpower)
    (Nat.le_mul_of_pos_left _ (Nat.pos_of_ne_zero hdigits))

theorem roundQuanta_eq_zero {num den : Nat} (hsmall : 2 * num < den) : roundQuanta num den = 0 := by
  have hfloor : num / den = 0 := Nat.div_eq_of_lt (by omega)
  have hplace : lastPlace 0 = 0 := rfl
  have hround : roundHalfEven num den = 0 :=
    roundHalfEven_eq (by omega) (by omega) (by omega) nofun
  rw [roundQuanta_eq, hfloor, hplace, Nat.pow_zero, Nat.mul_one, Nat.mul_one, hround]

/-- A decimal of less than half a quantum is rounded to zero, so its power of ten need not be
    computed. -/
theorem roundQuanta_eq_zero_of_exponent (hexponent : exponent + digits.log2 < -1200) :
    roundQuanta (digits * scale) (10 ^ (-exponent).toNat) = 0 := by
  apply roundQuanta_eq_zero
  have hdigits : digits < 2 ^ (digits.log2 + 1) := Nat.lt_log2_self
  have hbits : scaleBits = 1074 := rfl
  calc
    2 * (digits * scale) < 2 * (2 ^ (digits.log2 + 1) * scale) :=
      Nat.mul_lt_mul_of_pos_left (Nat.mul_lt_mul_of_pos_right hdigits scale_pos) (by decide)
    _ = 2 ^ (digits.log2 + 2 + scaleBits) := by
      rw [scale_eq]
      ring
    _ ≤ 2 ^ (3 * (-exponent).toNat) := Nat.pow_le_pow_right (by decide) (by omega)
    _ = 8 ^ (-exponent).toNat := Nat.pow_mul 2 3 _
    _ ≤ 10 ^ (-exponent).toNat := Nat.pow_le_pow_left (by decide) _

/-- A decimal that is not zero is rounded as the fraction that it is. -/
theorem ofDecimal_eq_rounded (negative : Bool) (exponent : Int) (hdigits : digits ≠ 0) :
    ofDecimal negative digits exponent =
      rounded negative (digits * 10 ^ exponent.toNat * scale) (10 ^ (-exponent).toNat) := by
  unfold ofDecimal
  simp only [hdigits, if_false, Nat.pow_eq]
  by_cases hgreat : 400 < exponent
  · have hwhole : (-exponent).toNat = 0 := by omega
    rw [if_pos hgreat, hwhole, Nat.pow_zero,
      rounded_of_not_representable (not_representable_of_exponent hdigits hgreat)]
  rw [if_neg hgreat]
  by_cases hsmall : exponent + digits.log2 < -1200
  · have hfraction : exponent.toNat = 0 := by omega
    have hzero := roundQuanta_eq_zero_of_exponent hsmall
    have hrepresentable : Representable
        (roundQuanta (digits * scale) (10 ^ (-exponent).toNat)) := by
      rw [hzero]
      exact representable_zero
    rw [if_pos hsmall, hfraction, Nat.pow_zero, Nat.mul_one,
      rounded_of_representable hrepresentable, zero]
    simp only [hzero]
  rw [if_neg hsmall]
  by_cases hwhole : 0 ≤ exponent
  · have hden : (-exponent).toNat = 0 := by omega
    rw [if_pos hwhole, hden, Nat.pow_zero]
  · have hnum : exponent.toNat = 0 := by omega
    rw [if_neg hwhole, hnum, Nat.pow_zero, Nat.mul_one]

/-- An integer is rounded as it is. -/
theorem ofDecimal_zero_exponent (negative : Bool) (n : Nat) :
    ofDecimal negative n 0 = rounded negative (n * scale) 1 := by
  by_cases hzero : n = 0
  · have hround : roundQuanta 0 1 = 0 := roundQuanta_of_representable representable_zero
    have hrepresentable : Representable (roundQuanta 0 1) := hround.symm ▸ representable_zero
    rw [hzero, Nat.zero_mul, rounded_of_representable hrepresentable]
    simp only [hround]
    rfl
  · rw [ofDecimal_eq_rounded negative 0 hzero]
    simp

/-- Zeros at the end of the digits count as much as a greater exponent. -/
theorem ofDecimal_mul_pow (negative : Bool) (digits zeros : Nat) (exponent : Int) :
    ofDecimal negative (digits * 10 ^ zeros) exponent =
      ofDecimal negative digits (exponent + zeros) := by
  by_cases hdigits : digits = 0
  · simp [hdigits, ofDecimal]
  have hproduct : digits * 10 ^ zeros ≠ 0 :=
    Nat.mul_ne_zero hdigits (Nat.ne_of_gt (Nat.pow_pos (by decide)))
  have hpos : ∀ n, 0 < 10 ^ n := fun n => Nat.pow_pos (by decide)
  rw [ofDecimal_eq_rounded negative exponent hproduct,
    ofDecimal_eq_rounded negative (exponent + zeros) hdigits]
  apply rounded_congr (hpos _) (hpos _)
  have hexponents : zeros + exponent.toNat + (-(exponent + zeros)).toNat =
      (exponent + zeros).toNat + (-exponent).toNat := by
    omega
  calc
    digits * 10 ^ zeros * 10 ^ exponent.toNat * scale * 10 ^ (-(exponent + zeros)).toNat =
        digits * scale * 10 ^ (zeros + exponent.toNat + (-(exponent + zeros)).toNat) := by
      rw [Nat.pow_add, Nat.pow_add]
      ring
    _ = digits * 10 ^ (exponent + zeros).toNat * scale * 10 ^ (-exponent).toNat := by
      rw [hexponents, Nat.pow_add]
      ring

end RecordFilter.Binary64
