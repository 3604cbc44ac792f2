import RecordFilter.Proofs.Number.Decimal

/-!
The shortest decimal of a number is read back as the number.

A decimal that is found lies in the interval of the number. One is found, because a grid with sixteen
digits more than the number has is finer than its interval.
-/

namespace RecordFilter.Binary64

variable {quanta : Nat} {exponent : Int}

theorem gridStep_eq (exponent : Int) :
    gridStep exponent = (4 * scale * 10 ^ exponent.toNat, 10 ^ (-exponent).toNat) := by
  unfold gridStep
  simp only [Nat.pow_eq]
  split
  · have hden : (-exponent).toNat = 0 := by omega
    rw [hden, Nat.pow_zero]
  · have hnum : exponent.toNat = 0 := by omega
    rw [hnum, Nat.pow_zero, Nat.mul_one]

theorem gridStep_den_pos (exponent : Int) : 0 < (gridStep exponent).2 := by
  rw [gridStep_eq]
  exact Nat.pow_pos (by decide)

theorem gridStep_num_pos (exponent : Int) : 0 < (gridStep exponent).1 := by
  rw [gridStep_eq]
  exact Nat.mul_pos (Nat.mul_pos (by decide) scale_pos) (Nat.pow_pos (by decide))

/-- A point of a grid that lies in the interval of a count is read back as the count. -/
theorem ofDecimal_of_holds (negative : Bool) {point : Nat} (h : Representable quanta)
    (hpoint : point ≠ 0)
    (hholds : (roundingInterval quanta).holds (point * (gridStep exponent).1)
      (gridStep exponent).2) :
    ofDecimal negative point exponent = .finite negative quanta h := by
  have hden := gridStep_den_pos exponent
  rw [gridStep_eq] at hholds hden
  have hquarters : point * (4 * scale * 10 ^ exponent.toNat) =
      4 * (point * 10 ^ exponent.toNat * scale) := by
    ring
  simp only [hquarters] at hholds
  have hround := roundQuanta_of_holds h hden hholds
  rw [ofDecimal_eq_rounded negative exponent hpoint, rounded_of_representable (by rwa [hround])]
  simp only [hround]

/-- What is found on a grid is one of the two points around the number, and lies in its interval. -/
theorem holds_of_onGrid? {d : Decimal} (hfound : onGrid? quanta exponent = some d) :
    d.exponent = exponent ∧ d.digits ≠ 0 ∧
      (roundingInterval quanta).holds (d.digits * (gridStep exponent).1)
        (gridStep exponent).2 := by
  unfold onGrid? at hfound
  dsimp only at hfound
  split at hfound
  · rename_i hfloor hnext
    rw [Bool.and_eq_true, bne_iff_ne] at hfloor
    rw [← Option.some.inj hfound]
    refine ⟨rfl, ?_⟩
    dsimp only
    split
    · exact ⟨Nat.succ_ne_zero _, hnext⟩
    · exact ⟨hfloor.2, hfloor.1⟩
  · rename_i hfloor hnext
    rw [Bool.and_eq_true, bne_iff_ne] at hfloor
    rw [← Option.some.inj hfound]
    exact ⟨rfl, hfloor.2, hfloor.1⟩
  · rename_i hfloor hnext
    rw [← Option.some.inj hfound]
    exact ⟨rfl, Nat.succ_ne_zero _, hnext⟩
  · cases hfound

theorem unit_le (hpos : quanta ≠ 0) : 2 ^ lastPlace quanta ≤ quanta := by
  by_cases hplace : 0 < lastPlace quanta
  · have := two_pow_le_of_lastPlace_pos hplace
    omega
  · rw [Nat.eq_zero_of_not_pos hplace, Nat.pow_zero]
    exact Nat.pos_of_ne_zero hpos

theorem reachBelow_le (quanta : Nat) : reachBelow quanta ≤ 2 * 2 ^ lastPlace quanta := by
  unfold reachBelow
  split <;> omega

/-- A point that is not in the interval is at its lower end or below, if it is not above the
    number. -/
theorem le_of_not_holds {num den : Nat} (hden : 0 < den) (hle : num ≤ 4 * quanta * den)
    (hnot : ¬ (roundingInterval quanta).holds num den) :
    num ≤ (4 * quanta - reachBelow quanta) * den := by
  have hhigh : 4 * quanta * den < (4 * quanta + 2 * 2 ^ lastPlace quanta) * den := by
    refine Nat.mul_lt_mul_of_pos_right ?_ hden
    have := Nat.two_pow_pos (lastPlace quanta)
    omega
  rw [roundingInterval_eq, Interval.holds] at hnot
  split at hnot
  all_goals
    simp only [Bool.and_eq_true, decide_eq_true_eq] at hnot
    omega

/-- A point that is not in the interval is at its upper end or above, if it is above the number. -/
theorem ge_of_not_holds {num den : Nat} (hle : 4 * quanta * den < num)
    (hnot : ¬ (roundingInterval quanta).holds num den) :
    (4 * quanta + 2 * 2 ^ lastPlace quanta) * den ≤ num := by
  have hlow : (4 * quanta - reachBelow quanta) * den ≤ 4 * quanta * den :=
    Nat.mul_le_mul_right den (Nat.sub_le _ _)
  rw [roundingInterval_eq, Interval.holds] at hnot
  split at hnot
  all_goals
    simp only [Bool.and_eq_true, decide_eq_true_eq] at hnot
    omega

theorem exists_onGrid?_of_holds {floor : Nat}
    (hfloor : 4 * quanta * (gridStep exponent).2 / (gridStep exponent).1 = floor) (hpos : floor ≠ 0)
    (hholds : (roundingInterval quanta).holds (floor * (gridStep exponent).1)
        (gridStep exponent).2 ∨
      (roundingInterval quanta).holds ((floor + 1) * (gridStep exponent).1)
        (gridStep exponent).2) :
    ∃ d, onGrid? quanta exponent = some d := by
  unfold onGrid?
  dsimp only
  rw [hfloor]
  split
  · exact ⟨_, rfl⟩
  · exact ⟨_, rfl⟩
  · exact ⟨_, rfl⟩
  · rename_i hfirst hsecond
    rw [Bool.and_eq_false_iff, bne_eq_false_iff_eq] at hfirst
    rcases hholds with h | h
    · rcases hfirst with hfirst | hfirst
      · exact absurd h (by rw [hfirst]; decide)
      · exact absurd hfirst hpos
    · exact absurd h (by rw [hsecond]; decide)

/-- On a grid that is finer than the interval of a number, a decimal is found. -/
theorem exists_onGrid? (hpos : quanta ≠ 0)
    (hfine : (gridStep exponent).1 <
      (reachBelow quanta + 2 * 2 ^ lastPlace quanta) * (gridStep exponent).2) :
    ∃ d, onGrid? quanta exponent = some d := by
  have hden := gridStep_den_pos exponent
  have hnum := gridStep_num_pos exponent
  have hreach := reachBelow_le quanta
  have hunit := unit_le hpos
  generalize hfloor : 4 * quanta * (gridStep exponent).2 / (gridStep exponent).1 = floor
  have hbelow : floor * (gridStep exponent).1 ≤ 4 * quanta * (gridStep exponent).2 := by
    rw [← hfloor]
    exact Nat.div_mul_le_self _ _
  have habove : 4 * quanta * (gridStep exponent).2 < (floor + 1) * (gridStep exponent).1 := by
    rw [← hfloor]
    exact Nat.lt_mul_of_div_lt (Nat.lt_succ_self _) hnum
  refine exists_onGrid?_of_holds hfloor ?_ ?_
  · rintro rfl
    have hwide : (reachBelow quanta + 2 * 2 ^ lastPlace quanta) * (gridStep exponent).2 ≤
        4 * quanta * (gridStep exponent).2 :=
      Nat.mul_le_mul_right _ (by omega)
    omega
  · by_contra hnone
    rw [not_or] at hnone
    have hlow := le_of_not_holds hden hbelow hnone.1
    have hhigh := ge_of_not_holds habove hnone.2
    have hends : (4 * quanta - reachBelow quanta) * (gridStep exponent).2 +
        (reachBelow quanta + 2 * 2 ^ lastPlace quanta) * (gridStep exponent).2 =
        (4 * quanta + 2 * 2 ^ lastPlace quanta) * (gridStep exponent).2 := by
      rw [← Nat.add_mul]
      congr 1
      omega
    have hnext : (floor + 1) * (gridStep exponent).1 =
        floor * (gridStep exponent).1 + (gridStep exponent).1 :=
      Nat.succ_mul ..
    omega

/-- The count is less than a power of ten. -/
def Below (quanta : Nat) (k : Int) : Prop :=
  quanta * 10 ^ (-k).toNat < scale * 10 ^ k.toNat

instance (quanta : Nat) (k : Int) : Decidable (Below quanta k) :=
  inferInstanceAs (Decidable (_ < _))

/-- The estimate of the number of digits before the point, by the number of bits. -/
def digitEstimate (bits : Nat) : Int :=
  (((bits : Int) - scaleBits) * 30103) / 100000

/-- The estimate is too great by two digits at most. The logarithm of two is taken to lie between
    three tenths and twenty-eight ninety-thirds, which is near enough for all numbers in range. -/
theorem pow_digitEstimate_le {bits : Nat} (hlimit : bits < limitBits) :
    scale * 10 ^ (digitEstimate bits - 2).toNat ≤
      2 ^ bits * 10 ^ (2 - digitEstimate bits).toNat := by
  have hscale : scaleBits = 1074 := rfl
  have hrange : limitBits = 2098 := rfl
  have hestimate : digitEstimate bits = (((bits : Int) - scaleBits) * 30103) / 100000 := rfl
  generalize digitEstimate bits = estimate at *
  rw [scale_eq]
  by_cases hwhole : scaleBits ≤ bits
  · obtain ⟨places, hplaces⟩ := Nat.exists_eq_add_of_le hwhole
    have hpower : 10 ^ (estimate - 2).toNat ≤ 2 ^ places := by
      refine (Nat.pow_le_pow_iff_left (n := 10) (by decide)).mp ?_
      calc
        (10 ^ (estimate - 2).toNat) ^ 10 = 10 ^ ((estimate - 2).toNat * 10) :=
          (Nat.pow_mul ..).symm
        _ ≤ 10 ^ (3 * places) := Nat.pow_le_pow_right (by decide) (by omega)
        _ = (10 ^ 3) ^ places := Nat.pow_mul ..
        _ ≤ (2 ^ 10) ^ places := Nat.pow_le_pow_left (by decide) _
        _ = (2 ^ places) ^ 10 := Nat.pow_right_comm ..
    rw [hplaces, Nat.pow_add]
    calc
      2 ^ scaleBits * 10 ^ (estimate - 2).toNat ≤ 2 ^ scaleBits * 2 ^ places :=
        Nat.mul_le_mul_left _ hpower
      _ ≤ 2 ^ scaleBits * 2 ^ places * 10 ^ (2 - estimate).toNat :=
        Nat.le_mul_of_pos_right _ (Nat.pow_pos (by decide))
  · obtain ⟨places, hplaces⟩ := Nat.exists_eq_add_of_le (Nat.le_of_not_le hwhole)
    have hnegative : (estimate - 2).toNat = 0 := by omega
    have hpower : 2 ^ places ≤ 10 ^ (2 - estimate).toNat := by
      refine (Nat.pow_le_pow_iff_left (n := 28) (by decide)).mp ?_
      calc
        (2 ^ places) ^ 28 = 2 ^ (places * 28) := (Nat.pow_mul ..).symm
        _ ≤ 2 ^ (93 * (2 - estimate).toNat) := Nat.pow_le_pow_right (by decide) (by omega)
        _ = (2 ^ 93) ^ (2 - estimate).toNat := Nat.pow_mul ..
        _ ≤ (10 ^ 28) ^ (2 - estimate).toNat := Nat.pow_le_pow_left (by decide) _
        _ = (10 ^ (2 - estimate).toNat) ^ 28 := Nat.pow_right_comm ..
    rw [hnegative, Nat.pow_zero, Nat.mul_one, hplaces, Nat.pow_add]
    exact Nat.mul_le_mul_left _ hpower

theorem not_below_estimate (h : Representable quanta) (hpos : quanta ≠ 0) :
    ¬ Below quanta (digitEstimate quanta.log2 - 2) := by
  have hlimit : quanta.log2 < limitBits := by
    have hlt := h.1
    rw [limit_eq] at hlt
    exact (Nat.log2_lt hpos).mpr hlt
  have hnegative : -(digitEstimate quanta.log2 - 2) = 2 - digitEstimate quanta.log2 := by omega
  rw [Below, Nat.not_lt, hnegative]
  exact Nat.le_trans (pow_digitEstimate_le hlimit)
    (Nat.mul_le_mul_right _ (Nat.log2_self_le hpos))

private theorem getD_find?_three {α : Type} (p : α → Bool) (a b c d : α) :
    ([a, b, c].find? p).getD d = if p a then a else if p b then b else if p c then c else d := by
  cases ha : p a <;> cases hb : p b <;> cases hc : p c <;> simp [ha, hb, hc]

theorem magnitude_eq (quanta : Nat) : magnitude quanta =
    let estimate := digitEstimate quanta.log2
    if Below quanta (estimate + -1) then estimate + -1
    else if Below quanta (estimate + 0) then estimate + 0
    else if Below quanta (estimate + 1) then estimate + 1
    else estimate + 2 := by
  have htest : (fun k : Int => if 0 ≤ k then decide (quanta < scale * Nat.pow 10 k.toNat)
      else decide (quanta * Nat.pow 10 (-k).toNat < scale)) = fun k => decide (Below quanta k) := by
    funext k
    simp only [Nat.pow_eq]
    split
    · have hden : (-k).toNat = 0 := by omega
      simp only [Below, hden, Nat.pow_zero, Nat.mul_one]
    · have hnum : k.toNat = 0 := by omega
      simp only [Below, hnum, Nat.pow_zero, Nat.mul_one]
  rw [magnitude, htest]
  simp only [List.map_cons, List.map_nil, getD_find?_three, decide_eq_true_eq]
  rfl

/-- The count has at least as many digits before the point as its magnitude says, less one. -/
theorem not_below_magnitude (h : Representable quanta) (hpos : quanta ≠ 0) :
    ¬ Below quanta (magnitude quanta - 1) := by
  have hestimate := not_below_estimate h hpos
  rw [magnitude_eq]
  generalize digitEstimate quanta.log2 = estimate at *
  dsimp only
  split
  · have hprevious : estimate + -1 - 1 = estimate - 2 := by omega
    rwa [hprevious]
  · rename_i hlow
    split
    · have hprevious : estimate + 0 - 1 = estimate + -1 := by omega
      rwa [hprevious]
    · rename_i hsame
      split
      · have hprevious : estimate + 1 - 1 = estimate + 0 := by omega
        rwa [hprevious]
      · rename_i hhigh
        have hprevious : estimate + 2 - 1 = estimate + 1 := by omega
        rwa [hprevious]

/-- A grid of sixteen digits more than the magnitude is finer than the interval of the number. The
    interval is as wide as a unit of the last place, and three quarters of one above a power of
    two. -/
theorem gridStep_lt (h : Representable quanta) (hpos : quanta ≠ 0) :
    (gridStep (magnitude quanta - 17)).1 <
      (reachBelow quanta + 2 * 2 ^ lastPlace quanta) * (gridStep (magnitude quanta - 17)).2 := by
  have hbelow := not_below_magnitude h hpos
  rw [Below, Nat.not_lt] at hbelow
  generalize magnitude quanta = k at *
  rw [gridStep_eq]
  dsimp only
  have hstep : scale * 10 ^ (k - 17).toNat * 10 ^ 16 ≤ quanta * 10 ^ (-(k - 17)).toNat := by
    have hexponents : (k - 17).toNat + 16 + (-(k - 1)).toNat =
        (k - 1).toNat + (-(k - 17)).toNat := by
      omega
    refine Nat.le_of_mul_le_mul_right (c := 10 ^ (-(k - 1)).toNat) ?_ (Nat.pow_pos (by decide))
    calc
      scale * 10 ^ (k - 17).toNat * 10 ^ 16 * 10 ^ (-(k - 1)).toNat =
          scale * 10 ^ ((k - 17).toNat + 16 + (-(k - 1)).toNat) := by
        rw [Nat.pow_add, Nat.pow_add]
        ring
      _ = scale * 10 ^ (k - 1).toNat * 10 ^ (-(k - 17)).toNat := by
        rw [hexponents, Nat.pow_add]
        ring
      _ ≤ quanta * 10 ^ (-(k - 1)).toNat * 10 ^ (-(k - 17)).toNat :=
        Nat.mul_le_mul_right _ hbelow
      _ = quanta * 10 ^ (-(k - 17)).toNat * 10 ^ (-(k - 1)).toNat := Nat.mul_right_comm ..
  have hwide : 4 * quanta < (reachBelow quanta + 2 * 2 ^ lastPlace quanta) * 10 ^ 16 := by
    have hunit := Nat.two_pow_pos (lastPlace quanta)
    by_cases hpower : quanta / 2 ^ lastPlace quanta = 2 ^ 52 ∧ 0 < lastPlace quanta
    · have hlt : quanta < (2 ^ 52 + 1) * 2 ^ lastPlace quanta :=
        Nat.lt_mul_of_div_lt (by omega) hunit
      rw [reachBelow, if_pos hpower]
      omega
    · have hlt := lt_two_pow_lastPlace quanta
      rw [reachBelow, if_neg hpower]
      omega
  have hden : 0 < 10 ^ (-(k - 17)).toNat := Nat.pow_pos (by decide)
  refine Nat.lt_of_mul_lt_mul_right (a := 10 ^ 16) ?_
  calc
    4 * scale * 10 ^ (k - 17).toNat * 10 ^ 16 = 4 * (scale * 10 ^ (k - 17).toNat * 10 ^ 16) := by
      ring
    _ ≤ 4 * (quanta * 10 ^ (-(k - 17)).toNat) := Nat.mul_le_mul_left 4 hstep
    _ = 4 * quanta * 10 ^ (-(k - 17)).toNat := (Nat.mul_assoc ..).symm
    _ < (reachBelow quanta + 2 * 2 ^ lastPlace quanta) * 10 ^ 16 * 10 ^ (-(k - 17)).toNat :=
      Nat.mul_lt_mul_of_pos_right hwide hden
    _ = (reachBelow quanta + 2 * 2 ^ lastPlace quanta) * 10 ^ (-(k - 17)).toNat * 10 ^ 16 :=
      Nat.mul_right_comm ..

/-- Taking zeros off the end of the digits does not change what is read. -/
theorem ofDecimal_normalize (negative : Bool) (d : Decimal) (fuel : Nat) :
    ofDecimal negative (d.normalize fuel).digits (d.normalize fuel).exponent =
      ofDecimal negative d.digits d.exponent := by
  induction fuel generalizing d with
  | zero => rfl
  | succ fuel ih =>
    rw [Decimal.normalize]
    split
    · rename_i hzero
      have hdigits : d.digits / 10 * 10 ^ 1 = d.digits := by omega
      have hvalue := ofDecimal_mul_pow negative (d.digits / 10) 1 d.exponent
      rw [hdigits] at hvalue
      rw [ih, hvalue]
      rfl
    · rfl

/-- The decimal that is found before the zeros are taken off its end. -/
theorem exists_shortest (h : Representable quanta) (hpos : quanta ≠ 0) :
    ∃ d : Decimal, shortest quanta = d.normalize 400 ∧
      ∀ negative, ofDecimal negative d.digits d.exponent = .finite negative quanta h := by
  obtain ⟨last, hlast⟩ := exists_onGrid? hpos (gridStep_lt h hpos)
  cases hfound : (List.range 17).findSome? fun n => onGrid? quanta (magnitude quanta - (n + 1 : Nat)) with
  | none =>
    have hnone := List.findSome?_eq_none_iff.mp hfound 16 (by decide)
    exact absurd (hnone.symm.trans hlast) nofun
  | some d =>
    obtain ⟨n, -, hgrid⟩ := List.exists_of_findSome?_eq_some hfound
    obtain ⟨hexponent, hdigits, hholds⟩ := holds_of_onGrid? hgrid
    refine ⟨d, ?_, fun negative => ?_⟩
    · rw [shortest, hfound]
      rfl
    · rw [hexponent]
      exact ofDecimal_of_holds negative h hdigits hholds

/-- The shortest decimal of a count is read back as the count. -/
theorem ofDecimal_shortest (negative : Bool) (h : Representable quanta) (hpos : quanta ≠ 0) :
    ofDecimal negative (shortest quanta).digits (shortest quanta).exponent =
      .finite negative quanta h := by
  obtain ⟨d, hshortest, hread⟩ := exists_shortest h hpos
  rw [hshortest, ofDecimal_normalize, hread]

theorem digits_shortest_ne_zero (h : Representable quanta) (hpos : quanta ≠ 0) :
    (shortest quanta).digits ≠ 0 := by
  intro hzero
  have hread := ofDecimal_shortest false h hpos
  rw [hzero, ofDecimal, if_pos rfl, zero] at hread
  cases hread
  exact hpos rfl

end RecordFilter.Binary64
