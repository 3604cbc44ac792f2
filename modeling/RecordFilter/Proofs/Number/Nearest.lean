import Mathlib.Tactic.Ring
import RecordFilter.Number.Shortest
import RecordFilter.Proofs.Number.Range

/-!
Rounding of quotients to floating point numbers: it keeps the order of the quotients, it depends on
nothing but the quotient, and every quotient in the interval of a count is rounded to that count.
-/

namespace RecordFilter

/-- The integer parts of quotients are in the order of the quotients. -/
theorem div_le_div_of_mul_le {a b c d : Nat} (hb : 0 < b) (hd : 0 < d) (hle : a * d ≤ c * b) :
    a / b ≤ c / d := by
  rw [Nat.le_div_iff_mul_le hd]
  refine Nat.le_of_mul_le_mul_right (Nat.le_trans ?_ hle) hb
  rw [Nat.mul_right_comm]
  exact Nat.mul_le_mul_right d (Nat.div_mul_le_self a b)

/-- The quotients are compared by their integer parts, and by their remainders where these agree. -/
theorem roundHalfEven_mono {a b c d : Nat} (hb : 0 < b) (hd : 0 < d) (hle : a * d ≤ c * b) :
    roundHalfEven a b ≤ roundHalfEven c d := by
  rcases Nat.lt_or_eq_of_le (div_le_div_of_mul_le hb hd hle) with hlt | heq
  · have hlow := div_le_roundHalfEven c d
    have hhigh := roundHalfEven_le a b
    omega
  · have hremainders : a % b * d ≤ c % d * b := by
      have ha : b * (a / b) * d + a % b * d = a * d := by
        rw [← Nat.add_mul, Nat.div_add_mod]
      have hc : d * (c / d) * b + c % d * b = c * b := by
        rw [← Nat.add_mul, Nat.div_add_mod]
      have hwhole : b * (a / b) * d = d * (c / d) * b := by
        rw [heq, Nat.mul_comm b, Nat.mul_comm d, Nat.mul_right_comm]
      omega
    have hdouble : 2 * (a % b) * d ≤ 2 * (c % d) * b := by
      rw [Nat.mul_assoc, Nat.mul_assoc]
      exact Nat.mul_le_mul_left 2 hremainders
    unfold roundHalfEven
    dsimp only
    rw [heq]
    rcases Nat.lt_trichotomy (2 * (a % b)) b with ha | ha | ha
    · rw [if_pos ha]
      exact div_le_roundHalfEven c d
    · rw [if_neg (Nat.not_lt.mpr (Nat.le_of_eq ha.symm)),
        if_neg (Nat.not_lt.mpr (Nat.le_of_eq ha))]
      have hhalf : d ≤ 2 * (c % d) := by
        rw [ha, Nat.mul_comm] at hdouble
        exact Nat.le_of_mul_le_mul_right hdouble hb
      rw [if_neg (Nat.not_lt.mpr hhalf)]
      split <;> omega
    · have hhalf : d < 2 * (c % d) := by
        have habove : b * d < 2 * (c % d) * b :=
          Nat.lt_of_lt_of_le (Nat.mul_lt_mul_of_pos_right ha hd) hdouble
        rw [Nat.mul_comm] at habove
        exact Nat.lt_of_mul_lt_mul_right habove
      rw [if_neg (Nat.not_lt.mpr (Nat.le_of_lt ha)), if_pos ha,
        if_neg (Nat.not_lt.mpr (Nat.le_of_lt hhalf)), if_pos hhalf]

/-- An integer that is at most half a unit away is the nearest one, or one of two that are, of
    which it is the one that is taken if it is even. -/
theorem roundHalfEven_eq {n d m : Nat} (hd : 0 < d) (hlow : (2 * m - 1) * d ≤ 2 * n)
    (hhigh : 2 * n ≤ (2 * m + 1) * d)
    (hodd : m % 2 = 1 → (2 * m - 1) * d < 2 * n ∧ 2 * n < (2 * m + 1) * d) :
    roundHalfEven n d = m := by
  have hsplit : d * (n / d) + n % d = n := Nat.div_add_mod n d
  have hrest : n % d < d := Nat.mod_lt n hd
  have hquotient : n / d = m ∨ n / d + 1 = m := by
    rcases Nat.lt_trichotomy (n / d + 1) m with h | h | h
    · have hstep : (2 * (n / d) + 3) * d ≤ (2 * m - 1) * d := Nat.mul_le_mul_right d (by omega)
      have hexpand : (2 * (n / d) + 3) * d = 2 * (d * (n / d)) + 3 * d := by ring
      omega
    · exact Or.inr h
    · refine Or.inl (Nat.le_antisymm ?_ (by omega))
      by_contra hgreater
      have hstep : (2 * m + 2) * d ≤ 2 * (n / d) * d := Nat.mul_le_mul_right d (by omega)
      have hexpand : 2 * (n / d) * d = 2 * (d * (n / d)) := by ring
      have hnext : (2 * m + 2) * d = (2 * m + 1) * d + d := by ring
      omega
  unfold roundHalfEven
  dsimp only
  rcases hquotient with rfl | rfl
  · have hexpand : (2 * (n / d) + 1) * d = 2 * (d * (n / d)) + d := by ring
    split
    · rfl
    · split
      · omega
      · have hparity : n / d % 2 = 0 := by
          by_contra hodd'
          have := (hodd (by omega)).2
          omega
        omega
  · have hexpand : (2 * (n / d + 1) - 1) * d = 2 * (d * (n / d)) + d := by
      have hpred : 2 * (n / d + 1) - 1 = 2 * (n / d) + 1 := by omega
      rw [hpred]
      ring
    split
    · omega
    · split
      · rfl
      · have hparity : (n / d + 1) % 2 = 0 := by
          by_contra hodd'
          have := (hodd (by omega)).1
          omega
        omega

namespace Binary64

variable {num den : Nat}

theorem roundQuanta_eq (num den : Nat) : roundQuanta num den =
    roundHalfEven num (den * 2 ^ lastPlace (num / den)) * 2 ^ lastPlace (num / den) := by
  simp only [roundQuanta, Nat.pow_eq]

theorem lastPlace_mono {a b : Nat} (hle : a ≤ b) : lastPlace a ≤ lastPlace b := by
  unfold lastPlace
  have hlog : a.log2 ≤ b.log2 := by
    by_cases ha : a = 0
    · subst ha
      exact Nat.zero_le _
    · exact (Nat.le_log2 (by omega)).mpr (Nat.le_trans (Nat.log2_self_le ha) hle)
  omega

theorem lastPlace_eq {n place : Nat} (hlow : 2 ^ (52 + place) ≤ n) (hhigh : n < 2 ^ (53 + place)) :
    lastPlace n = place := by
  have hne : n ≠ 0 := Nat.ne_of_gt (Nat.lt_of_lt_of_le (Nat.two_pow_pos _) hlow)
  have hle := (Nat.le_log2 hne).mpr hlow
  have hlt := (Nat.log2_lt hne).mpr hhigh
  unfold lastPlace
  omega

theorem roundHalfEven_place_le (num den : Nat) :
    roundHalfEven num (den * 2 ^ lastPlace (num / den)) ≤ 2 ^ 53 := by
  have hround := roundHalfEven_le num (den * 2 ^ lastPlace (num / den))
  have hquotient : num / den / 2 ^ lastPlace (num / den) < 2 ^ 53 :=
    Nat.div_lt_of_lt_mul (by rw [Nat.mul_comm]; exact lt_two_pow_lastPlace _)
  rw [Nat.div_div_eq_div_mul] at hquotient
  omega

theorem le_roundHalfEven_place (hplace : 0 < lastPlace (num / den)) :
    2 ^ 52 ≤ roundHalfEven num (den * 2 ^ lastPlace (num / den)) := by
  have hquotient : 2 ^ 52 ≤ num / den / 2 ^ lastPlace (num / den) :=
    (Nat.le_div_iff_mul_le (Nat.two_pow_pos _)).mpr (two_pow_le_of_lastPlace_pos hplace)
  rw [Nat.div_div_eq_div_mul] at hquotient
  exact Nat.le_trans hquotient (div_le_roundHalfEven _ _)

/-- Rounding keeps the order. A count with a higher last place is greater than all counts with a
    lower one, or equal to the power of two between them. -/
theorem roundQuanta_mono {a b c d : Nat} (hb : 0 < b) (hd : 0 < d) (hle : a * d ≤ c * b) :
    roundQuanta a b ≤ roundQuanta c d := by
  have hfloors : a / b ≤ c / d := div_le_div_of_mul_le hb hd hle
  rw [roundQuanta_eq, roundQuanta_eq]
  rcases Nat.lt_or_eq_of_le (lastPlace_mono hfloors) with hplace | hplace
  · have hpower : 2 ^ 53 * 2 ^ lastPlace (a / b) ≤ 2 ^ 52 * 2 ^ lastPlace (c / d) := by
      rw [← Nat.pow_add, ← Nat.pow_add]
      exact Nat.pow_le_pow_right (by decide) (by omega)
    have hlow := Nat.mul_le_mul_right (2 ^ lastPlace (c / d))
      (le_roundHalfEven_place (Nat.zero_lt_of_lt hplace))
    have hhigh := Nat.mul_le_mul_right (2 ^ lastPlace (a / b)) (roundHalfEven_place_le a b)
    omega
  · rw [hplace]
    have hpos : ∀ n, 0 < n → 0 < n * 2 ^ lastPlace (c / d) :=
      fun n hn => Nat.mul_pos hn (Nat.two_pow_pos _)
    refine Nat.mul_le_mul_right _ (roundHalfEven_mono (hpos b hb) (hpos d hd) ?_)
    rw [← Nat.mul_assoc, ← Nat.mul_assoc]
    exact Nat.mul_le_mul_right _ hle

/-- Equal quotients are rounded to the same count. -/
theorem roundQuanta_congr {a b c d : Nat} (hb : 0 < b) (hd : 0 < d) (heq : a * d = c * b) :
    roundQuanta a b = roundQuanta c d :=
  Nat.le_antisymm (roundQuanta_mono hb hd (Nat.le_of_eq heq))
    (roundQuanta_mono hd hb (Nat.le_of_eq heq.symm))

theorem roundQuanta_mul_of_representable {quanta : Nat} (h : Representable quanta) (hden : 0 < den) :
    roundQuanta (quanta * den) den = quanta := by
  rw [roundQuanta_congr (c := quanta) hden Nat.zero_lt_one (Nat.mul_one _),
    roundQuanta_of_representable h]

theorem rounded_congr {negative : Bool} {a b c d : Nat} (hb : 0 < b) (hd : 0 < d)
    (heq : a * d = c * b) : rounded negative a b = rounded negative c d := by
  unfold rounded
  dsimp only
  rw [roundQuanta_congr hb hd heq]

/-- What is rounded has no bit below its last place, and so it is a number if it is in range. -/
theorem representable_iff_lt_limit (num den : Nat) :
    Representable (roundQuanta num den) ↔ roundQuanta num den < limit := by
  refine ⟨fun h => h.1, fun h => ⟨h, ?_⟩⟩
  rw [Nat.pow_eq, roundQuanta_eq]
  exact mod_lastPlace (roundHalfEven_place_le num den)

theorem isFinite_rounded_iff (negative : Bool) (num den : Nat) :
    (rounded negative num den).isFinite ↔ Representable (roundQuanta num den) := by
  by_cases h : Representable (roundQuanta num den)
  · rw [rounded_of_representable h]
    exact iff_of_true rfl h
  · rw [rounded_of_not_representable h]
    exact iff_of_false nofun h

/-- What is less than a quotient in range is rounded to a number in range. -/
theorem isFinite_rounded_of_le {negative other : Bool} {a b c d : Nat} (hb : 0 < b) (hd : 0 < d)
    (hle : a * d ≤ c * b) (hfinite : (rounded negative c d).isFinite) :
    (rounded other a b).isFinite := by
  rw [isFinite_rounded_iff, representable_iff_lt_limit] at hfinite ⊢
  exact Nat.lt_of_le_of_lt (roundQuanta_mono hb hd hle) hfinite

/-- A count is a whole number of units of its last place. -/
theorem exists_significand {quanta : Nat} (h : Representable quanta) :
    ∃ significand < 2 ^ 53, quanta = significand * 2 ^ lastPlace quanta ∧
      (0 < lastPlace quanta → 2 ^ 52 ≤ significand) := by
  have hmod := h.2
  rw [Nat.pow_eq, ← Nat.dvd_iff_mod_eq_zero] at hmod
  obtain ⟨significand, hquanta⟩ := hmod
  rw [Nat.mul_comm] at hquanta
  have hpos := Nat.two_pow_pos (lastPlace quanta)
  refine ⟨significand, ?_, hquanta, ?_⟩
  · refine Nat.lt_of_mul_lt_mul_right (a := 2 ^ lastPlace quanta) ?_
    rw [← hquanta]
    exact lt_two_pow_lastPlace quanta
  · intro hplace
    refine Nat.le_of_mul_le_mul_right (c := 2 ^ lastPlace quanta) ?_ hpos
    rw [← hquanta]
    exact two_pow_le_of_lastPlace_pos hplace

/-- Half the distance to the next lower count, in quarters of a quantum. -/
def reachBelow (quanta : Nat) : Nat :=
  if quanta / 2 ^ lastPlace quanta = 2 ^ 52 ∧ 0 < lastPlace quanta then 2 ^ lastPlace quanta
  else 2 * 2 ^ lastPlace quanta

theorem roundingInterval_eq (quanta : Nat) : roundingInterval quanta =
    ⟨4 * quanta - reachBelow quanta, 4 * quanta + 2 * 2 ^ lastPlace quanta,
      quanta / 2 ^ lastPlace quanta % 2 = 0⟩ := by
  simp only [roundingInterval, reachBelow, Nat.pow_eq]

/-- What it is for a quotient to lie in the interval of a count. The ends belong to the interval of
    a count whose significand is even. -/
theorem bounds_of_holds {quanta : Nat} (hholds : (roundingInterval quanta).holds (4 * num) den) :
    4 * (quanta * den) ≤ 4 * num + reachBelow quanta * den ∧
      4 * num ≤ 4 * (quanta * den) + 2 * (2 ^ lastPlace quanta * den) ∧
      (quanta / 2 ^ lastPlace quanta % 2 = 1 →
        4 * (quanta * den) < 4 * num + reachBelow quanta * den ∧
          4 * num < 4 * (quanta * den) + 2 * (2 ^ lastPlace quanta * den)) := by
  have hlow : (4 * quanta - reachBelow quanta) * den =
      4 * (quanta * den) - reachBelow quanta * den := by
    rw [Nat.sub_mul, Nat.mul_assoc]
  have hhigh : (4 * quanta + 2 * 2 ^ lastPlace quanta) * den =
      4 * (quanta * den) + 2 * (2 ^ lastPlace quanta * den) := by
    ring
  rw [roundingInterval_eq, Interval.holds] at hholds
  simp only [hlow, hhigh] at hholds
  by_cases heven : quanta / 2 ^ lastPlace quanta % 2 = 0
  · simp only [heven, decide_true, if_true, Bool.and_eq_true, decide_eq_true_eq] at hholds
    omega
  · simp only [heven, decide_false, Bool.false_eq_true, if_false, Bool.and_eq_true,
      decide_eq_true_eq] at hholds
    omega

/-- A quotient in the interval of a count has the last place of the count, unless the count is a
    power of two and the quotient less. Then its last place is one lower. -/
theorem lastPlace_of_bounds {significand place : Nat} (hden : 0 < den)
    (hsignificand : significand < 2 ^ 53) (hnormal : 0 < place → 2 ^ 52 ≤ significand)
    (hlow : 4 * (significand * 2 ^ place * den) ≤ 4 * num + 2 * (2 ^ place * den))
    (hhigh : 4 * num ≤ 4 * (significand * 2 ^ place * den) + 2 * (2 ^ place * den)) :
    lastPlace (num / den) = place ∨
      significand = 2 ^ 52 ∧ lastPlace (num / den) + 1 = place ∧ num < 2 ^ 52 * 2 ^ place * den := by
  have hunit : 0 < 2 ^ place * den := Nat.mul_pos (Nat.two_pow_pos place) hden
  have hcount : significand * 2 ^ place * den = significand * (2 ^ place * den) := Nat.mul_assoc ..
  have htop : significand * (2 ^ place * den) ≤ (2 ^ 53 - 1) * (2 ^ place * den) :=
    Nat.mul_le_mul_right _ (by omega)
  have hbelow : num / den < 2 ^ (53 + place) := by
    rw [Nat.div_lt_iff_lt_mul hden, Nat.pow_add, Nat.mul_assoc]
    omega
  rcases Nat.lt_or_ge (num / den) (2 ^ (52 + place)) with hless | hnot
  · have hnum : num < 2 ^ 52 * (2 ^ place * den) := by
      rwa [Nat.div_lt_iff_lt_mul hden, Nat.pow_add, Nat.mul_assoc] at hless
    cases hplace : place with
    | zero =>
      rw [hplace] at hless
      refine Or.inl (Nat.le_zero.mp ?_)
      have hlog := lastPlace_mono (Nat.le_of_lt hless)
      rwa [lastPlace, lastPlace, Nat.log2_two_pow] at hlog
    | succ lower =>
      have hsame : significand = 2 ^ 52 := by
        refine Nat.le_antisymm (Nat.not_lt.mp fun hgreater => ?_) (hnormal (by omega))
        have hstep : (2 ^ 52 + 1) * (2 ^ place * den) ≤ significand * (2 ^ place * den) :=
          Nat.mul_le_mul_right _ hgreater
        omega
      refine Or.inr ⟨hsame, ?_, ?_⟩
      · have habove : 2 ^ (51 + place) ≤ num / den := by
          rw [Nat.le_div_iff_mul_le hden, Nat.pow_add, Nat.mul_assoc]
          rw [hcount, hsame] at hlow
          omega
        have hlower : 51 + place = 52 + lower := by omega
        have hupper : 52 + place = 53 + lower := by omega
        rw [hlower] at habove
        rw [hupper] at hless
        rw [lastPlace_eq habove hless]
      · rw [Nat.mul_assoc, ← hplace]
        exact hnum
  · exact Or.inl (lastPlace_eq hnot hbelow)

/-- A fraction that is at most half a unit away is rounded to the multiple of the unit, if that is even
    or nearer. -/
theorem roundHalfEven_of_bounds {significand unit : Nat} (hunit : 0 < unit)
    (hlow : 4 * (significand * unit) ≤ 4 * num + 2 * unit)
    (hhigh : 4 * num ≤ 4 * (significand * unit) + 2 * unit)
    (hodd : significand % 2 = 1 → 4 * (significand * unit) < 4 * num + 2 * unit ∧
      4 * num < 4 * (significand * unit) + 2 * unit) : roundHalfEven num unit = significand := by
  have hdown : (2 * significand - 1) * unit = 2 * (significand * unit) - unit := by
    rw [Nat.sub_mul, Nat.one_mul, Nat.mul_assoc]
  have hup : (2 * significand + 1) * unit = 2 * (significand * unit) + unit := by
    ring
  refine roundHalfEven_eq hunit (by omega) (by omega) ?_
  intro hparity
  obtain ⟨hlow, hhigh⟩ := hodd hparity
  have hone : unit ≤ significand * unit := Nat.le_mul_of_pos_left _ (by omega)
  omega

/-- Every quotient in the interval of a count is rounded to the count. -/
theorem roundQuanta_of_holds {quanta : Nat} (h : Representable quanta) (hden : 0 < den)
    (hholds : (roundingInterval quanta).holds (4 * num) den) : roundQuanta num den = quanta := by
  obtain ⟨significand, hsignificand, hquanta, hnormal⟩ := exists_significand h
  have hquotient : quanta / 2 ^ lastPlace quanta = significand :=
    Nat.div_eq_of_eq_mul_left (Nat.two_pow_pos _) hquanta
  obtain ⟨hlow, hhigh, hodd⟩ := bounds_of_holds hholds
  rw [hquotient] at hodd
  have hreach : reachBelow quanta * den ≤ 2 * (2 ^ lastPlace quanta * den) := by
    rw [← Nat.mul_assoc]
    refine Nat.mul_le_mul_right den ?_
    unfold reachBelow
    split <;> omega
  have hpower : 0 < lastPlace quanta → significand = 2 ^ 52 →
      reachBelow quanta = 2 ^ lastPlace quanta := by
    intro hplace hsignificand
    rw [reachBelow, hquotient, if_pos ⟨hsignificand, hplace⟩]
  generalize lastPlace quanta = place at *
  have hcount : quanta * den = significand * (2 ^ place * den) := by
    rw [hquanta, Nat.mul_assoc]
  have hwide : 4 * (quanta * den) ≤ 4 * num + 2 * (2 ^ place * den) := by omega
  have hcases := lastPlace_of_bounds hden hsignificand hnormal (hquanta ▸ hwide) (hquanta ▸ hhigh)
  have hunit : den * 2 ^ place = 2 ^ place * den := Nat.mul_comm ..
  rw [hcount] at hlow hhigh hodd hwide
  rcases hcases with hsame | ⟨hsame, hlower, hless⟩
  · have hpos : 0 < 2 ^ place * den := Nat.mul_pos (Nat.two_pow_pos place) hden
    have hround := roundHalfEven_of_bounds hpos hwide hhigh fun hparity => by
      have := hodd hparity
      omega
    rw [roundQuanta_eq, hsame, hunit, hround, ← hquanta]
  · -- The quotient has one more bit below, and is rounded up to the power of two.
    rw [hpower (by omega) hsame, hsame] at hlow
    generalize hplace : lastPlace (num / den) = lower at hlower
    subst hlower
    have hdouble : 2 ^ (lower + 1) * den = 2 * (den * 2 ^ lower) := by
      ring
    have hbelow : num < 2 ^ 53 * (den * 2 ^ lower) := by
      refine Nat.lt_of_lt_of_eq hless ?_
      ring
    rw [hdouble] at hlow
    have hround : roundHalfEven num (den * 2 ^ lower) = 2 ^ 53 :=
      roundHalfEven_eq (Nat.mul_pos hden (Nat.two_pow_pos lower)) (by omega) (by omega) (by omega)
    rw [roundQuanta_eq, hplace, hround, hquanta, hsame]
    ring

/-- A number times the count of its denominator is the number. -/
theorem rounded_mul_of_representable {quanta : Nat} (negative : Bool) (h : Representable quanta)
    (hden : 0 < den) : rounded negative (quanta * den) den = finite negative quanta h := by
  have hround := roundQuanta_mul_of_representable h hden
  rw [rounded_of_representable (hround.symm ▸ h)]
  simp only [hround]

theorem scale_eq : scale = 2 ^ scaleBits := by
  unfold scale
  generalize scaleBits = bits
  rfl

theorem limit_eq : limit = 2 ^ limitBits := by
  unfold limit
  generalize limitBits = bits
  rfl

theorem representable_two_pow {place : Nat} (hplace : place < limitBits) :
    Representable (2 ^ place) := by
  constructor
  · rw [limit_eq]
    exact Nat.pow_lt_pow_right (by decide) hplace
  · have hmod : 1 * 2 ^ place % 2 ^ lastPlace (1 * 2 ^ place) = 0 := mod_lastPlace (by decide)
    rwa [Nat.one_mul] at hmod

theorem representable_scale : Representable scale := by
  rw [scale_eq]
  exact representable_two_pow (by decide)

/-- A product with one is not rounded. -/
theorem mul_one (x : Binary64) : x.mul (ofRatio 1 1) = x := by
  have hone : ofRatio 1 1 = finite false scale representable_scale := by
    have hrounded := rounded_mul_of_representable false representable_scale Nat.zero_lt_one
    rw [ofRatio, Nat.mul_comm, hrounded]
  rw [hone]
  cases x with
  | nan => rfl
  | infinite negative =>
    have hne : scale ≠ 0 := Nat.ne_of_gt scale_pos
    cases negative <;> simp [mul, hne]
  | finite negative quanta h =>
    have hsign : (negative != false) = negative := by cases negative <;> rfl
    rw [mul, hsign, rounded_mul_of_representable negative h scale_pos]

/-- The factors of a product in range are in range. -/
theorem isFinite_of_isFinite_mul {x y : Binary64} (hfinite : (x.mul y).isFinite) :
    x.isFinite ∧ y.isFinite := by
  cases x with
  | finite s a ha =>
    cases y with
    | finite t b hb => exact ⟨rfl, rfl⟩
    | infinite t =>
      rw [mul] at hfinite
      split at hfinite <;> cases hfinite
    | nan => cases hfinite
  | infinite s =>
    cases y with
    | finite t b hb =>
      rw [mul] at hfinite
      split at hfinite <;> cases hfinite
    | infinite t => cases hfinite
    | nan => cases hfinite
  | nan => cases hfinite

/-- The terms of a sum in range are in range. -/
theorem isFinite_of_isFinite_add {x y : Binary64} (hfinite : (x.add y).isFinite) :
    x.isFinite ∧ y.isFinite := by
  cases x with
  | finite s a ha =>
    cases y with
    | finite t b hb => exact ⟨rfl, rfl⟩
    | infinite t => cases hfinite
    | nan => cases hfinite
  | infinite s =>
    cases y with
    | finite t b hb => cases hfinite
    | infinite t =>
      rw [add] at hfinite
      split at hfinite <;> cases hfinite
    | nan => cases hfinite
  | nan => cases hfinite

/-- What is divided to a quotient in range is in range. -/
theorem isFinite_of_isFinite_div {x y : Binary64} (hfinite : (x.div y).isFinite) : x.isFinite := by
  cases x with
  | finite s a ha => rfl
  | infinite s => cases y <;> cases hfinite
  | nan => cases hfinite

theorem isFinite_neg (x : Binary64) : x.neg.isFinite = x.isFinite := by
  cases x <;> rfl

theorem isFinite_of_nearestInt? {x : Binary64} {i : Int} (hx : x.nearestInt? = some i) :
    x.isFinite := by
  cases x with
  | finite s a ha => rfl
  | infinite s => cases hx
  | nan => cases hx

theorem exists_truncate?_of_isFinite {x : Binary64} (hfinite : x.isFinite) :
    ∃ i, x.truncate? = some i := by
  cases x with
  | finite s a ha => exact ⟨_, rfl⟩
  | infinite s => cases hfinite
  | nan => cases hfinite

/-- If a product is in range, so is the product with a lesser factor. -/
theorem isFinite_mul_ofRatio_of_le {x : Binary64} {m n : Nat} (hle : m ≤ n)
    (hfinite : (x.mul (ofRatio n 1)).isFinite) : (x.mul (ofRatio m 1)).isFinite := by
  have hround : roundQuanta (m * scale) 1 ≤ roundQuanta (n * scale) 1 :=
    roundQuanta_mono Nat.zero_lt_one Nat.zero_lt_one
      (Nat.mul_le_mul_right 1 (Nat.mul_le_mul_right scale hle))
  obtain ⟨hx, hn⟩ := isFinite_of_isFinite_mul hfinite
  rw [ofRatio, isFinite_rounded_iff] at hn
  have hm : Representable (roundQuanta (m * scale) 1) :=
    (representable_iff_lt_limit _ _).mpr (Nat.lt_of_le_of_lt hround hn.1)
  cases x with
  | finite negative quanta h =>
    rw [ofRatio, rounded_of_representable hn, mul] at hfinite
    rw [ofRatio, rounded_of_representable hm, mul]
    refine isFinite_rounded_of_le scale_pos scale_pos ?_ hfinite
    exact Nat.mul_le_mul_right scale (Nat.mul_le_mul_left quanta hround)
  | infinite negative => cases hx
  | nan => cases hx

/-- The whole part of a number is a number of the format too. -/
theorem representable_div_mul {quanta : Nat} (h : Representable quanta) :
    Representable (quanta / scale * scale) := by
  obtain ⟨significand, hsignificand, hquanta, -⟩ := exists_significand h
  have hle : quanta / scale * scale ≤ quanta := Nat.div_mul_le_self quanta scale
  rcases Nat.le_total scaleBits (lastPlace quanta) with hplace | hplace
  · have hdvd : scale ∣ quanta := by
      rw [hquanta, scale_eq]
      exact Nat.dvd_mul_left_of_dvd (Nat.pow_dvd_pow 2 hplace) significand
    rwa [Nat.div_mul_cancel hdvd]
  · have hwhole : quanta / scale < 2 ^ 53 := by
      rw [Nat.div_lt_iff_lt_mul scale_pos, scale_eq]
      exact Nat.lt_of_lt_of_le (lt_two_pow_lastPlace quanta)
        (Nat.mul_le_mul_left _ (Nat.pow_le_pow_right (by decide) hplace))
    refine ⟨Nat.lt_of_le_of_lt hle h.1, ?_⟩
    rw [Nat.pow_eq]
    have hmod : quanta / scale * 2 ^ scaleBits %
        2 ^ lastPlace (quanta / scale * 2 ^ scaleBits) = 0 :=
      mod_lastPlace (Nat.le_of_lt hwhole)
    rwa [← scale_eq] at hmod

/-- The whole part of a number is a number. -/
theorem representable_of_truncate? {x : Binary64} {i : Int} (hx : x.truncate? = some i) :
    Representable (i.natAbs * scale) := by
  cases x with
  | infinite negative => cases hx
  | nan => cases hx
  | finite negative quanta h =>
    rw [natAbs_of_truncate? hx]
    exact representable_div_mul h

/-- An integer that is rounded to a number with itself as the whole part is not moved by rounding. -/
theorem roundQuanta_eq_of_div_eq {n : Nat} (hwhole : roundQuanta (n * scale) 1 / scale = n) :
    roundQuanta (n * scale) 1 = n * scale := by
  rw [roundQuanta_one] at hwhole ⊢
  generalize hplace : lastPlace (n * scale) = place at hwhole ⊢
  rcases Nat.le_total place scaleBits with hle | hle
  · have hsplit : n * scale = n * 2 ^ (scaleBits - place) * 2 ^ place := by
      rw [scale_eq, Nat.mul_assoc, ← Nat.pow_add, Nat.sub_add_cancel hle]
    rw [hsplit, roundHalfEven_mul (Nat.two_pow_pos place)]
  · have hdvd : scale ∣ roundHalfEven (n * scale) (2 ^ place) * 2 ^ place := by
      rw [scale_eq]
      exact Nat.dvd_mul_left_of_dvd (Nat.pow_dvd_pow 2 hle) _
    rw [← Nat.div_mul_cancel hdvd, hwhole]

end Binary64

end RecordFilter
