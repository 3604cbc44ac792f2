import Mathlib.Algebra.Group.Nat.Defs
import RecordFilter.Number.Binary64

/-!
The range of floating point numbers: which integers are rounded to a number in range, and how great
the whole part of a number can be.
-/

namespace RecordFilter

theorem div_le_roundHalfEven (num den : Nat) : num / den ≤ roundHalfEven num den := by
  unfold roundHalfEven
  dsimp only
  split
  · exact Nat.le_refl _
  · split <;> omega

theorem roundHalfEven_le (num den : Nat) : roundHalfEven num den ≤ num / den + 1 := by
  unfold roundHalfEven
  dsimp only
  split
  · omega
  · split <;> omega

/-- An even integer is reached from half a unit below it, since a tie goes to the even one. -/
theorem le_roundHalfEven_iff {num den m : Nat} (hden : 0 < den) (heven : m % 2 = 0) :
    m ≤ roundHalfEven num den ↔ (2 * m - 1) * den ≤ 2 * num := by
  have hlow := div_le_roundHalfEven num den
  have hhigh := roundHalfEven_le num den
  have hsplit : den * (num / den) + num % den = num := Nat.div_add_mod num den
  have hrest : num % den < den := Nat.mod_lt num hden
  have hdouble : 2 * (num / den) * den = 2 * (den * (num / den)) := by
    rw [Nat.mul_assoc, Nat.mul_comm (num / den)]
  rcases Nat.lt_trichotomy m (num / den + 1) with hm | hm | hm
  · have hbelow : (2 * m - 1) * den ≤ 2 * (num / den) * den :=
      Nat.mul_le_mul_right den (by omega)
    omega
  · have hexpand : (2 * m - 1) * den = 2 * (num / den) * den + den := by
      rw [← Nat.succ_mul]
      congr 1
      omega
    have hround : roundHalfEven num den =
        if 2 * (num % den) < den then num / den
        else if den < 2 * (num % den) then num / den + 1
        else num / den + num / den % 2 := rfl
    split at hround
    · omega
    · split at hround <;> omega
  · have habove : (2 * (num / den) + 3) * den ≤ (2 * m - 1) * den :=
      Nat.mul_le_mul_right den (by omega)
    rw [Nat.add_mul] at habove
    omega

namespace Binary64

theorem roundQuanta_one (n : Nat) :
    roundQuanta n 1 = roundHalfEven n (2 ^ lastPlace n) * 2 ^ lastPlace n := by
  simp only [roundQuanta, Nat.div_one, Nat.one_mul, Nat.pow_eq]

theorem lt_two_pow_lastPlace (n : Nat) : n < 2 ^ 53 * 2 ^ lastPlace n := by
  rw [← Nat.pow_add]
  have hlog : n < 2 ^ (n.log2 + 1) := Nat.lt_log2_self
  exact Nat.lt_of_lt_of_le hlog (Nat.pow_le_pow_right (by decide) (by unfold lastPlace; omega))

theorem significand_le (n : Nat) : roundHalfEven n (2 ^ lastPlace n) ≤ 2 ^ 53 := by
  have hround := roundHalfEven_le n (2 ^ lastPlace n)
  have hquotient : n / 2 ^ lastPlace n < 2 ^ 53 :=
    Nat.div_lt_of_lt_mul (by rw [Nat.mul_comm]; exact lt_two_pow_lastPlace n)
  omega

theorem two_pow_le_of_lastPlace_pos {n : Nat} (hplace : 0 < lastPlace n) :
    2 ^ 52 * 2 ^ lastPlace n ≤ n := by
  have hne : n ≠ 0 := by
    rintro rfl
    exact absurd hplace (by decide)
  rw [← Nat.pow_add]
  refine Nat.le_trans (Nat.pow_le_pow_right (by decide) ?_) (Nat.log2_self_le hne)
  unfold lastPlace at hplace ⊢
  omega

/-- No bit of a count with 53 significant bits at most is below its last place. -/
theorem mod_lastPlace {significand place : Nat} (hsignificand : significand ≤ 2 ^ 53) :
    significand * 2 ^ place % 2 ^ lastPlace (significand * 2 ^ place) = 0 := by
  rw [← Nat.dvd_iff_mod_eq_zero]
  rcases Nat.lt_or_eq_of_le hsignificand with hlt | rfl
  · by_cases hzero : significand = 0
    · rw [hzero, Nat.zero_mul]
      exact Nat.dvd_zero _
    · have hne : significand * 2 ^ place ≠ 0 :=
        Nat.mul_ne_zero hzero (Nat.ne_of_gt (Nat.two_pow_pos place))
      have hbits : significand * 2 ^ place < 2 ^ (53 + place) := by
        rw [Nat.pow_add]
        exact Nat.mul_lt_mul_of_pos_right hlt (Nat.two_pow_pos place)
      have hlog := (Nat.log2_lt hne).mpr hbits
      have hplace : lastPlace (significand * 2 ^ place) ≤ place := by
        unfold lastPlace
        omega
      exact Nat.dvd_mul_left_of_dvd (Nat.pow_dvd_pow 2 hplace) significand
  · have hlog : (2 ^ 53 * 2 ^ place).log2 = 53 + place := by
      rw [← Nat.pow_add, Nat.log2_two_pow]
    rw [lastPlace, hlog, ← Nat.pow_add]
    exact Nat.pow_dvd_pow 2 (by omega)

/-- Rounding reaches a power of two from half of the last place below it. -/
theorem two_pow_le_roundQuanta_iff {n place : Nat} :
    2 ^ 53 * 2 ^ place ≤ roundQuanta n 1 ↔ (2 ^ 54 - 1) * 2 ^ place ≤ 2 * n := by
  have hpos : ∀ k, 0 < 2 ^ k := Nat.two_pow_pos
  rw [roundQuanta_one]
  rcases Nat.lt_trichotomy (lastPlace n) place with hplace | rfl | hplace
  · have hpower : 2 ^ 53 * 2 ^ lastPlace n * 2 ≤ 2 ^ 53 * 2 ^ place := by
      rw [Nat.mul_assoc, ← Nat.pow_succ]
      exact Nat.mul_le_mul_left _ (Nat.pow_le_pow_right (by decide) hplace)
    have hsignificand := Nat.mul_le_mul_right (2 ^ lastPlace n) (significand_le n)
    have hn := lt_two_pow_lastPlace n
    have := hpos (lastPlace n)
    have := hpos place
    constructor
    · omega
    · omega
  · have hdouble : 2 * 2 ^ 53 - 1 = 2 ^ 54 - 1 := by decide
    rw [Nat.mul_le_mul_right_iff (hpos _), le_roundHalfEven_iff (hpos _) (by decide), hdouble]
  · have hn := two_pow_le_of_lastPlace_pos (Nat.zero_lt_of_lt hplace)
    have hpower : 2 ^ place * 2 ≤ 2 ^ lastPlace n := by
      rw [← Nat.pow_succ]
      exact Nat.pow_le_pow_right (by decide) hplace
    have hquotient : 2 ^ 52 ≤ n / 2 ^ lastPlace n := (Nat.le_div_iff_mul_le (hpos _)).mpr hn
    have hround := Nat.mul_le_mul_right (2 ^ lastPlace n)
      (Nat.le_trans hquotient (div_le_roundHalfEven n (2 ^ lastPlace n)))
    constructor
    · omega
    · omega

/-- The least magnitude of an integer that is rounded out of range. It is half of the last place
    below `2 ^ 1024`. -/
def integerLimit : Nat := (Nat.pow 2 54 - 1) * Nat.pow 2 970

theorem representable_roundQuanta_iff (n : Nat) :
    Representable (roundQuanta n 1) ↔ roundQuanta n 1 < limit := by
  refine ⟨fun h => h.1, fun h => ⟨h, ?_⟩⟩
  rw [Nat.pow_eq, roundQuanta_one]
  exact mod_lastPlace (significand_le n)

theorem integerLimit_pos : 0 < integerLimit := by
  decide +kernel

/-- The limits as multiples of one place, which is not spelled out so that no power is computed. -/
private theorem exists_place : ∃ place, limit = 2 ^ 53 * 2 ^ place ∧
    integerLimit * (2 * scale) = (2 ^ 54 - 1) * 2 ^ place :=
  ⟨2045, by decide +kernel, by decide +kernel⟩

theorem scale_pos : 0 < scale := by
  unfold scale
  exact two_pow_pos scaleBits

theorem limit_le_roundQuanta_iff (n : Nat) :
    limit ≤ roundQuanta (n * scale) 1 ↔ integerLimit ≤ n := by
  obtain ⟨place, hlimit, hinteger⟩ := exists_place
  have hscale : 0 < 2 * scale := Nat.mul_pos (by decide) scale_pos
  rw [hlimit, two_pow_le_roundQuanta_iff, ← hinteger, Nat.mul_left_comm 2 n]
  exact Nat.mul_le_mul_right_iff hscale

/-- An integer below the limit is rounded to a number in range. -/
theorem representable_rounded_iff (n : Nat) :
    Representable (roundQuanta (n * scale) 1) ↔ n < integerLimit := by
  rw [representable_roundQuanta_iff, ← Nat.not_le, limit_le_roundQuanta_iff, Nat.not_le]

theorem rounded_of_representable {negative : Bool} {num den : Nat}
    (h : Representable (roundQuanta num den)) :
    rounded negative num den = .finite negative (roundQuanta num den) h := by
  unfold rounded
  exact dif_pos h

theorem rounded_of_not_representable {negative : Bool} {num den : Nat}
    (h : ¬ Representable (roundQuanta num den)) : rounded negative num den = .infinite negative := by
  unfold rounded
  exact dif_neg h

/-- An integer is rounded out of range from `2 ^ 1024 - 2 ^ 970` on, on either side of zero. -/
theorem ofInt?_eq_none_iff {i : Int} : ofInt? i = none ↔ integerLimit ≤ i.natAbs := by
  rw [← Nat.not_lt, ← representable_rounded_iff, ofInt?]
  by_cases hin : Representable (roundQuanta (i.natAbs * scale) 1)
  · rw [rounded_of_representable hin]
    exact ⟨nofun, fun hout => absurd hin hout⟩
  · rw [rounded_of_not_representable hin]
    exact ⟨fun _ => hin, fun _ => rfl⟩

/-- Rounding does not move a count without a bit below its last place. -/
theorem roundQuanta_of_mod_eq_zero {quanta : Nat} (hmod : quanta % 2 ^ lastPlace quanta = 0) :
    roundQuanta quanta 1 = quanta := by
  rw [← Nat.dvd_iff_mod_eq_zero] at hmod
  obtain ⟨significand, hquanta⟩ := hmod
  rw [Nat.mul_comm] at hquanta
  have hround := roundHalfEven_mul (n := significand) (Nat.two_pow_pos (lastPlace quanta))
  rw [← hquanta] at hround
  rw [roundQuanta_one, hround, ← hquanta]

/-- Rounding does not move a count that the format holds. -/
theorem roundQuanta_of_representable {quanta : Nat} (h : Representable quanta) :
    roundQuanta quanta 1 = quanta := by
  have hmod := h.2
  rw [Nat.pow_eq] at hmod
  exact roundQuanta_of_mod_eq_zero hmod

theorem natAbs_of_truncate? {negative : Bool} {quanta : Nat} {h : Representable quanta} {i : Int}
    (hx : (finite negative quanta h).truncate? = some i) : i.natAbs = quanta / scale := by
  rw [← Option.some.inj hx]
  split
  · rw [Int.natAbs_neg, Int.natAbs_natCast]
  · rw [Int.natAbs_natCast]

/-- The whole part of a finite number is rounded to a number in range. -/
theorem natAbs_lt_of_truncate? {x : Binary64} {i : Int} (hx : x.truncate? = some i) :
    i.natAbs < integerLimit := by
  cases x with
  | infinite negative => cases hx
  | nan => cases hx
  | finite negative quanta h =>
    rw [natAbs_of_truncate? hx, Nat.div_lt_iff_lt_mul scale_pos]
    obtain ⟨place, hlimit, hinteger⟩ := exists_place
    have hbelow : ¬ (2 ^ 54 - 1) * 2 ^ place ≤ 2 * quanta := by
      rw [← two_pow_le_roundQuanta_iff, roundQuanta_of_representable h, ← hlimit]
      exact Nat.not_le.mpr h.1
    rw [← hinteger, Nat.mul_left_comm] at hbelow
    omega

end Binary64

end RecordFilter
