import RecordFilter.Proofs.Number.Decimal

/-!
Whole numbers as floating point numbers. Whole numbers below `2 ^ 53` are added, multiplied and
divided without rounding, as long as the results are such numbers too. And rounding goes along with
powers of two: a quotient and its product with one are rounded at the same bit.
-/

namespace RecordFilter

theorem roundHalfEven_congr {a b c d : Nat} (hb : 0 < b) (hd : 0 < d) (heq : a * d = c * b) :
    roundHalfEven a b = roundHalfEven c d :=
  Nat.le_antisymm (roundHalfEven_mono hb hd (Nat.le_of_eq heq))
    (roundHalfEven_mono hd hb (Nat.le_of_eq heq.symm))

namespace Binary64

variable {m n num den place : Nat}

/-- A whole number with at most 53 significant bits is a number of the format, if it is not too
    great. -/
theorem representable_mul_scale (hn : n < 2 ^ 53) (hplace : place ≤ 900) :
    Representable (n * 2 ^ place * scale) := by
  have hscale : scaleBits = 1074 := rfl
  have hlimit : limitBits = 2098 := rfl
  have hquanta : n * 2 ^ place * scale = n * 2 ^ (place + scaleBits) := by
    rw [scale_eq, Nat.mul_assoc, ← Nat.pow_add]
  rw [hquanta]
  constructor
  · rw [limit_eq]
    calc
      n * 2 ^ (place + scaleBits) < 2 ^ 53 * 2 ^ (place + scaleBits) :=
        Nat.mul_lt_mul_of_pos_right hn (Nat.two_pow_pos _)
      _ = 2 ^ (53 + (place + scaleBits)) := (Nat.pow_add 2 53 _).symm
      _ ≤ 2 ^ limitBits := Nat.pow_le_pow_right (by decide) (by omega)
  · rw [Nat.pow_eq]
    exact mod_lastPlace (Nat.le_of_lt hn)

theorem representable_whole (hn : n < 2 ^ 53) : Representable (n * scale) := by
  have hrepresentable : Representable (n * 2 ^ 0 * scale) :=
    representable_mul_scale hn (Nat.zero_le _)
  rwa [Nat.pow_zero, Nat.mul_one] at hrepresentable

theorem ofRatio_whole (hn : n < 2 ^ 53) :
    ofRatio n 1 = finite false (n * scale) (representable_whole hn) := by
  have hrounded := rounded_mul_of_representable false (representable_whole hn) Nat.zero_lt_one
  rwa [Nat.mul_one] at hrounded

theorem ofRatio_zero : ofRatio 0 1 = zero false := by
  rw [ofRatio, ← ofDecimal_zero_exponent]
  exact if_pos rfl

theorem add_whole (hsum : m + n < 2 ^ 53) :
    (ofRatio m 1).add (ofRatio n 1) = ofRatio (m + n) 1 := by
  rw [ofRatio_whole (n := m) (by omega), ofRatio_whole (n := n) (by omega), add, if_pos rfl, ofRatio,
    Nat.add_mul]

theorem mul_whole (hm : m < 2 ^ 53) (hn : n < 2 ^ 53) :
    (ofRatio m 1).mul (ofRatio n 1) = ofRatio (m * n) 1 := by
  rw [ofRatio_whole hm, ofRatio_whole hn, mul, ofRatio]
  refine rounded_congr scale_pos Nat.zero_lt_one ?_
  ring

/-- A whole number is divided by a factor, with either sign. -/
theorem div_whole (negative : Bool) (hm : m < 2 ^ 53) (hn : n < 2 ^ 53) (hpos : 0 < n)
    {h : Representable (m * n * scale)} :
    (finite negative (m * n * scale) h).div (ofRatio n 1) =
      finite negative (m * scale) (representable_whole hm) := by
  have hne : n * scale ≠ 0 := Nat.ne_of_gt (Nat.mul_pos hpos scale_pos)
  have hsign : (negative != false) = negative := by cases negative <;> rfl
  have hquotient : m * n * scale * scale = m * scale * (n * scale) := by ring
  rw [ofRatio_whole hn, div, if_neg hne, hsign, hquotient,
    rounded_mul_of_representable negative (representable_whole hm) (Nat.mul_pos hpos scale_pos)]

theorem nearestInt?_whole {negative : Bool} {h : Representable (n * scale)} :
    (finite negative (n * scale) h).nearestInt? = some (if negative then -(n : Int) else n) := by
  rw [nearestInt?, roundHalfEven_mul scale_pos]

private theorem den_pos_of_normal (hnormal : 2 ^ 52 ≤ num / den) : 0 < den := by
  by_contra hzero
  rw [Nat.eq_zero_of_not_pos hzero, Nat.div_zero] at hnormal
  exact absurd hnormal (by decide)

theorem lastPlace_mul_two_pow (hnormal : 2 ^ 52 ≤ num / den) (k : Nat) :
    lastPlace (num * 2 ^ k / den) = lastPlace (num / den) + k := by
  have hden := den_pos_of_normal hnormal
  have hne : num / den ≠ 0 := by omega
  have hlog : 52 ≤ (num / den).log2 := (Nat.le_log2 hne).mpr hnormal
  have hlow := (Nat.le_div_iff_mul_le hden).mp (Nat.log2_self_le hne)
  have hhigh := (Nat.div_lt_iff_lt_mul hden).mp (Nat.lt_log2_self (n := num / den))
  have hfirst : 52 + (lastPlace (num / den) + k) = (num / den).log2 + k := by
    unfold lastPlace
    omega
  have hnext : 53 + (lastPlace (num / den) + k) = (num / den).log2 + 1 + k := by omega
  refine lastPlace_eq ?_ ?_
  · rw [hfirst, Nat.le_div_iff_mul_le hden, Nat.pow_add, Nat.mul_right_comm]
    exact Nat.mul_le_mul_right _ hlow
  · rw [hnext, Nat.div_lt_iff_lt_mul hden, Nat.pow_add, Nat.mul_right_comm]
    exact Nat.mul_lt_mul_of_pos_right hhigh (Nat.two_pow_pos k)

/-- A quotient with all its 53 significant bits is rounded at the same bit when it is multiplied by a
    power of two. -/
theorem roundQuanta_mul_two_pow (hnormal : 2 ^ 52 ≤ num / den) (k : Nat) :
    roundQuanta (num * 2 ^ k) den = roundQuanta num den * 2 ^ k := by
  have hden := den_pos_of_normal hnormal
  rw [roundQuanta_eq, roundQuanta_eq, lastPlace_mul_two_pow hnormal]
  generalize lastPlace (num / den) = place
  have hunit (p : Nat) : 0 < den * 2 ^ p := Nat.mul_pos hden (Nat.two_pow_pos p)
  have hround : roundHalfEven (num * 2 ^ k) (den * 2 ^ (place + k)) =
      roundHalfEven num (den * 2 ^ place) :=
    roundHalfEven_congr (hunit _) (hunit _) (by ring)
  rw [hround, Nat.pow_add, Nat.mul_assoc]

theorem truncate?_rounded (num den : Nat) :
    (rounded false num den).truncate? =
      if roundQuanta num den < limit then some ((roundQuanta num den / scale : Nat) : Int)
      else none := by
  by_cases h : Representable (roundQuanta num den)
  · rw [rounded_of_representable h, if_pos h.1]
    rfl
  · rw [rounded_of_not_representable h, if_neg (mt (representable_iff_lt_limit num den).mpr h)]
    rfl

/-- Of two quotients the lesser has a whole part if the greater has one, and not a greater one. -/
theorem exists_truncate?_rounded_le {a b c d : Nat} (hb : 0 < b) (hd : 0 < d) (hle : a * d ≤ c * b)
    {i : Int} (hi : (rounded false c d).truncate? = some i) :
    ∃ j, (rounded false a b).truncate? = some j ∧ j ≤ i := by
  have hround := roundQuanta_mono hb hd hle
  rw [truncate?_rounded] at hi ⊢
  split at hi
  · rename_i hlimit
    rw [if_pos (Nat.lt_of_le_of_lt hround hlimit)]
    refine ⟨_, rfl, ?_⟩
    rw [← Option.some.inj hi]
    exact Int.ofNat_le.mpr (Nat.div_le_div_right hround)
  · cases hi

/-- A rounded count has 53 significant bits, and so its product with a power of two is not rounded
    again. -/
theorem roundQuanta_roundQuanta_mul (num den k : Nat) :
    roundQuanta (roundQuanta num den * 2 ^ k) 1 = roundQuanta num den * 2 ^ k := by
  refine roundQuanta_of_mod_eq_zero ?_
  rw [roundQuanta_eq, Nat.mul_assoc, ← Nat.pow_add]
  exact mod_lastPlace (roundHalfEven_place_le num den)

theorem ofRatio_two_pow {k : Nat} (hk : k ≤ 900) :
    ∃ h, ofRatio (2 ^ k) 1 = finite false (2 ^ k * scale) h := by
  have h := representable_mul_scale (n := 1) (by decide) hk
  rw [Nat.one_mul] at h
  have hrounded := rounded_mul_of_representable false h Nat.zero_lt_one
  rw [Nat.mul_one] at hrounded
  exact ⟨h, hrounded⟩

/-- What a number times a power of two is rounded to, within and beyond the range. -/
theorem truncate?_mul_ofRatio (num den : Nat) {k : Nat} (hk : k ≤ 900) :
    ((rounded false num den).mul (ofRatio (2 ^ k) 1)).truncate? =
      if roundQuanta num den * 2 ^ k < limit then
        some ((roundQuanta num den * 2 ^ k / scale : Nat) : Int)
      else none := by
  obtain ⟨hpower, hfactor⟩ := ofRatio_two_pow hk
  rw [hfactor]
  by_cases h : Representable (roundQuanta num den)
  · have hexact : rounded false (roundQuanta num den * (2 ^ k * scale)) scale =
        rounded false (roundQuanta num den * 2 ^ k) 1 :=
      rounded_congr scale_pos Nat.zero_lt_one (by ring)
    have hproduct := truncate?_rounded (roundQuanta num den * 2 ^ k) 1
    rw [roundQuanta_roundQuanta_mul] at hproduct
    have hsign : (false != false) = false := rfl
    rw [rounded_of_representable h, mul, hsign, hexact, hproduct]
  · have hbeyond := mt (representable_iff_lt_limit num den).mpr h
    have hle := Nat.le_mul_of_pos_right (roundQuanta num den) (Nat.two_pow_pos k)
    have hne : 2 ^ k * scale ≠ 0 := Nat.ne_of_gt (Nat.mul_pos (Nat.two_pow_pos k) scale_pos)
    rw [rounded_of_not_representable h, mul, if_neg hne, if_neg (by omega)]
    rfl

theorem roundQuanta_le_two_pow {bits : Nat} (hden : 0 < den) (hbits : bits < limitBits)
    (hle : num ≤ 2 ^ bits * den) : roundQuanta num den ≤ 2 ^ bits := by
  rw [← roundQuanta_of_representable (representable_two_pow hbits)]
  exact roundQuanta_mono hden Nat.zero_lt_one (by rwa [Nat.mul_one])

/-- The product of a rounded number with a power of two has the whole part of the exact product when
    that is rounded. A number that is rounded at another bit is so little that neither has one. -/
theorem truncate?_mul_two_pow (hden : 0 < den) {k : Nat} (hk : k ≤ 900) :
    ((rounded false num den).mul (ofRatio (2 ^ k) 1)).truncate? =
      (rounded false (num * 2 ^ k) den).truncate? := by
  rw [truncate?_mul_ofRatio num den hk, truncate?_rounded]
  rcases Nat.lt_or_ge (num / den) (2 ^ 52) with hsmall | hnormal
  · have hscale : scaleBits = 1074 := rfl
    have hlimit : limitBits = 2098 := rfl
    have hnum : num ≤ 2 ^ 52 * den := Nat.le_of_lt ((Nat.div_lt_iff_lt_mul hden).mp hsmall)
    have hproduct : num * 2 ^ k ≤ 2 ^ (52 + k) * den := by
      rw [Nat.pow_add, Nat.mul_right_comm]
      exact Nat.mul_le_mul_right _ hnum
    have hless : 2 ^ (52 + k) < scale := by
      rw [scale_eq]
      exact Nat.pow_lt_pow_right (by decide) (by omega)
    have hrange : scale ≤ limit := by
      rw [scale_eq, limit_eq]
      exact Nat.pow_le_pow_right (by decide) (by decide)
    have hfirst : roundQuanta num den * 2 ^ k < scale := by
      refine Nat.lt_of_le_of_lt ?_ hless
      rw [Nat.pow_add]
      exact Nat.mul_le_mul_right _ (roundQuanta_le_two_pow hden (by omega) hnum)
    have hsecond : roundQuanta (num * 2 ^ k) den < scale :=
      Nat.lt_of_le_of_lt (roundQuanta_le_two_pow hden (by omega) hproduct) hless
    rw [if_pos (Nat.lt_of_lt_of_le hfirst hrange), if_pos (Nat.lt_of_lt_of_le hsecond hrange),
      Nat.div_eq_of_lt hfirst, Nat.div_eq_of_lt hsecond]
  · rw [roundQuanta_mul_two_pow hnormal]

end Binary64

end RecordFilter
