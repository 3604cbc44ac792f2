import RecordFilter.Proofs.Quantity.NumberText
import RecordFilter.Proofs.Value.Ordering

/-!
Numbers as values, and the scales on which two of them are compared.

What a value denotes as a number is counted in quanta, without rounding (`Value.quanta?`). Two
numbers that are written plainly meet on the scale of sizes, which knows only their whole parts. All
others meet on the scale of numbers, to which integers are rounded.
-/

namespace RecordFilter

namespace Binary64

variable {x y : Binary64} {q r : Int}

theorem quanta?_finite (negative : Bool) {quanta : Nat} (h : Representable quanta) :
    (finite negative quanta h).quanta? = some (if negative then -(quanta : Int) else quanta) :=
  rfl

theorem exists_finite_of_quanta? (hx : x.quanta? = some q) :
    ∃ negative quanta h, x = finite negative quanta h ∧
      q = if negative then -(quanta : Int) else quanta := by
  cases x with
  | finite negative quanta h => exact ⟨negative, quanta, h, rfl, (Option.some.inj hx).symm⟩
  | infinite negative => cases hx
  | nan => cases hx

theorem less_of_quanta? (hx : x.quanta? = some q) (hy : y.quanta? = some r) :
    x.less y = decide (q < r) := by
  obtain ⟨s, a, ha, rfl, rfl⟩ := exists_finite_of_quanta? hx
  obtain ⟨t, b, hb, rfl, rfl⟩ := exists_finite_of_quanta? hy
  rfl

theorem truncate?_of_quanta? (hx : x.quanta? = some q) :
    x.truncate? = some (q.tdiv scale) := by
  obtain ⟨negative, quanta, h, rfl, rfl⟩ := exists_finite_of_quanta? hx
  rw [truncate?]
  cases negative with
  | true => rw [if_pos rfl, if_pos rfl, Int.neg_tdiv, Int.ofNat_tdiv]
  | false => rw [if_neg Bool.false_ne_true, if_neg Bool.false_ne_true, Int.ofNat_tdiv]

/-- The count that a signed count is rounded to. -/
def nearest (quanta : Int) : Int :=
  if quanta < 0 then -(roundQuanta quanta.natAbs 1) else roundQuanta quanta.natAbs 1

theorem nearest_of_representable (h : Representable q.natAbs) : nearest q = q := by
  rw [nearest, roundQuanta_of_representable h]
  split <;> omega

theorem representable_of_quanta? (hx : x.quanta? = some q) : Representable q.natAbs := by
  obtain ⟨negative, quanta, h, rfl, rfl⟩ := exists_finite_of_quanta? hx
  have hnatAbs : (if negative then -(quanta : Int) else quanta).natAbs = quanta := by
    split <;> omega
  rwa [hnatAbs]

theorem nearest_of_quanta? (hx : x.quanta? = some q) : nearest q = q :=
  nearest_of_representable (representable_of_quanta? hx)

/-- Rounding does not change which of two counts is less, though it may make them equal. -/
theorem nearest_mono (hle : q ≤ r) : nearest q ≤ nearest r := by
  have hmono {a b : Nat} (hab : a ≤ b) : roundQuanta a 1 ≤ roundQuanta b 1 :=
    roundQuanta_mono Nat.zero_lt_one Nat.zero_lt_one (Nat.mul_le_mul_right 1 hab)
  unfold nearest
  split <;> split
  · have := hmono (show r.natAbs ≤ q.natAbs by omega)
    omega
  · omega
  · omega
  · have := hmono (show q.natAbs ≤ r.natAbs by omega)
    omega

theorem natAbs_mul_scale (i : Int) : (i * (scale : Int)).natAbs = i.natAbs * scale := by
  rw [Int.natAbs_mul, Int.natAbs_natCast]

theorem quanta?_rounded {i : Int} (hi : i.natAbs < integerLimit) :
    (rounded (i < 0) (i.natAbs * scale) 1).quanta? = some (nearest (i * scale)) := by
  have hrange : Representable (roundQuanta (i.natAbs * scale) 1) := by
    rwa [representable_rounded_iff]
  have hneg : i * (scale : Int) < 0 ↔ i < 0 := by
    have hscale : 0 < (scale : Int) := Int.natCast_pos.mpr scale_pos
    constructor
    · intro hlt
      by_contra hnonneg
      exact absurd (Int.mul_nonneg (Int.not_lt.mp hnonneg) (Int.le_of_lt hscale)) (Int.not_le.mpr hlt)
    · exact fun hlt => Int.mul_neg_of_neg_of_pos hlt hscale
  rw [rounded_of_representable hrange, quanta?_finite, nearest, natAbs_mul_scale]
  simp only [decide_eq_true_eq, hneg]

theorem quanta?_of_toInt? {i : Int} (hx : x.toInt? = some i) : x.quanta? = some (i * scale) := by
  cases x with
  | infinite negative => cases hx
  | nan => cases hx
  | finite negative quanta h =>
    simp only [toInt?] at hx
    split at hx
    · rename_i hwhole
      have hquanta : ((quanta / scale : Nat) : Int) * scale = quanta := by
        rw [← Int.natCast_mul, Nat.div_mul_cancel (Nat.dvd_of_mod_eq_zero hwhole)]
      rw [quanta?_finite, ← Option.some.inj hx]
      cases negative with
      | true => rw [if_pos rfl, if_pos rfl, Int.neg_mul, hquanta]
      | false => rw [if_neg Bool.false_ne_true, if_neg Bool.false_ne_true, hquanta]
    · cases hx

end Binary64

namespace Value

open Binary64

/-- A number is shown by its own text, or it is whole and shown as an integer. -/
theorem floatText_cases (x : Binary64) :
    floatText x = x.text ∨
      ∃ i : Int, floatText x = Text.ofInt i ∧ x.quanta? = some (i * scale) ∧
        i.natAbs < integerLimit := by
  unfold floatText
  split
  · rename_i i hwhole
    split
    · have hlimit : wholeLimit ≤ integerLimit := by decide +kernel
      exact Or.inr ⟨i, rfl, quanta?_of_toInt? hwhole, by omega⟩
    · exact Or.inl rfl
  · exact Or.inl rfl

/-- What a number is shown as is read as the number, but for the sign of a zero. -/
theorem exists_readFloat?_floatText (x : Binary64) :
    ∃ y, Numeral.readFloat? (floatText x) = some y ∧ y.quanta? = x.quanta? ∧
      (x.quanta? = none → y = x) := by
  rcases floatText_cases x with htext | ⟨i, htext, hquanta, hi⟩
  · exact ⟨x, by rw [htext, readFloat?_text], rfl, fun _ => rfl⟩
  · refine ⟨_, by rw [htext, readFloat?_ofInt], ?_, ?_⟩
    · rw [quanta?_rounded hi, hquanta, nearest_of_quanta? hquanta]
    · rw [hquanta]
      nofun

/-- The number that a value denotes, in quanta. Integers are not rounded here. -/
def quanta? : Value → Option Int
  | integer i => some (i * scale)
  | float x => x.quanta?
  | text t => (Numeral.readFloat? t).bind Binary64.quanta?
  | _ => none

/-- Whether a number is an integer, or is written with digits and a point at most. -/
def isPlainNumber : Value → Bool
  | integer _ => true
  | float x => Numeral.isPlain (floatText x)
  | text t => Numeral.isPlain t
  | _ => false

variable {v a b : Value} {q r : Int}

/-- A number that is no integer is shown as a text that is read as the number. -/
theorem exists_readFloat?_of_quanta? (hv : v.quanta? = some q) (hinteger : ∀ i, v ≠ integer i) :
    ∃ t x, v.display = .ok t ∧ Numeral.readFloat? t = some x ∧ x.quanta? = some q ∧
      v.isPlainNumber = Numeral.isPlain t := by
  cases v with
  | integer i => exact absurd rfl (hinteger i)
  | float x =>
    obtain ⟨y, hread, hquanta, -⟩ := exists_readFloat?_floatText x
    exact ⟨_, y, rfl, hread, hquanta.trans hv, rfl⟩
  | text t =>
    obtain ⟨x, hread, hquanta⟩ := Option.bind_eq_some_iff.mp hv
    exact ⟨t, x, rfl, hread, hquanta, rfl⟩
  | _ => cases hv

/-- The size of a plain number is its whole part. -/
theorem byteCount?_of_quanta? (hv : v.quanta? = some q) :
    v.byteCount? = if v.isPlainNumber then some (q.tdiv scale) else none := by
  by_cases hinteger : ∃ i, v = integer i
  · obtain ⟨i, rfl⟩ := hinteger
    obtain rfl := Option.some.inj hv
    have hscale : (scale : Int) ≠ 0 := Int.natCast_ne_zero.mpr (Nat.ne_of_gt scale_pos)
    rw [isPlainNumber, if_pos rfl, Int.mul_tdiv_cancel _ hscale]
    rfl
  · rw [not_exists] at hinteger
    obtain ⟨t, x, ht, hread, hquanta, hplain⟩ := exists_readFloat?_of_quanta? hv hinteger
    have hboolean : ∀ b, v ≠ boolean b := by
      rintro b rfl
      cases hv
    have hsize : ∀ n, v ≠ size n := by
      rintro n rfl
      cases hv
    rw [byteCount?_of_display hboolean hinteger hsize ht, Numeral.readSize_of_readFloat? hread,
      hplain, truncate?_of_quanta? hquanta]

/-- In range, a number is shown as a text that is read as the floating point number nearest to it. -/
theorem exists_nearest_of_quanta? (hv : v.quanta? = some q) (hrange : ¬ v.IsHuge) :
    ∃ t x, v.display = .ok t ∧ Numeral.readFloat? t = some x ∧ x.quanta? = some (nearest q) := by
  by_cases hinteger : ∃ i, v = integer i
  · obtain ⟨i, rfl⟩ := hinteger
    obtain rfl := Option.some.inj hv
    have hi := natAbs_lt_of_not_isHuge hrange
    exact ⟨_, _, integerText_of_lt (lt_pow_digitLimit hi), readFloat?_ofInt i, quanta?_rounded hi⟩
  · obtain ⟨t, x, ht, hread, hquanta, -⟩ :=
      exists_readFloat?_of_quanta? hv (not_exists.mp hinteger)
    exact ⟨t, x, ht, hread, by rw [hquanta, nearest_of_quanta? hquanta]⟩

/-- A number is no duration, unless it is zero. -/
theorem duration?_of_quanta? (hv : v.quanta? = some q) (hrange : ¬ v.IsHuge) :
    v.duration? = .ok none ∨ v.duration? = .ok (some Duration.zero) ∧ nearest q = 0 := by
  obtain ⟨t, x, ht, hread, hquanta⟩ := exists_nearest_of_quanta? hv hrange
  have hduration : ∀ d, v ≠ duration d := by
    rintro d rfl
    cases hv
  rw [duration?_of_display hduration ht, Numeral.readCluster_of_readFloat? hread, Option.none_or]
  rcases Numeral.readCompact_of_readFloat? hread with hcompact | ⟨hcompact, hzero⟩
  · exact Or.inl (by rw [hcompact])
  · refine Or.inr ⟨by rw [hcompact], ?_⟩
    rw [hquanta] at hzero
    exact Option.some.inj hzero

theorem number?_of_quanta? (hv : v.quanta? = some q) (hrange : ¬ v.IsHuge) :
    ∃ x, v.number? = .ok (some x) ∧ x.quanta? = some (nearest q) := by
  cases v with
  | integer i =>
    obtain rfl := Option.some.inj hv
    have hfinite := quanta?_rounded (natAbs_lt_of_not_isHuge hrange)
    obtain ⟨negative, quanta, h, hx, -⟩ := exists_finite_of_quanta? hfinite
    rw [hx] at hfinite
    refine ⟨_, ?_, hfinite⟩
    rw [number?, floatOf, ofInt?, hx]
    rfl
  | float x =>
    have hx : x.quanta? = some q := hv
    exact ⟨x, rfl, by rw [hx, nearest_of_quanta? hx]⟩
  | text t =>
    obtain ⟨x, hread, hquanta⟩ := Option.bind_eq_some_iff.mp hv
    refine ⟨x, ?_, by rw [hquanta, nearest_of_quanta? hquanta]⟩
    rw [number?, Quantity.toOption_readFloat, hread]
  | _ => cases hv

/-- Two plain numbers are compared by their whole parts. -/
theorem compare_of_isPlainNumber (ha : a.quanta? = some q) (hb : b.quanta? = some r)
    (hplain : a.isPlainNumber ∧ b.isPlainNumber) :
    a.compare b = .ok (.sizes (q.tdiv scale) (r.tdiv scale)) := by
  refine compare_of_byteCount? ?_ ?_
  · rw [byteCount?_of_quanta? ha, if_pos hplain.1]
  · rw [byteCount?_of_quanta? hb, if_pos hplain.2]

theorem sizes?_of_not_isPlainNumber (ha : a.quanta? = some q) (hb : b.quanta? = some r)
    (hplain : ¬ (a.isPlainNumber ∧ b.isPlainNumber)) : sizes? a b = none := by
  rw [sizes?_eq_none_iff, byteCount?_of_quanta? ha, byteCount?_of_quanta? hb]
  rcases Decidable.not_and_iff_or_not.mp hplain with h | h
  · exact Or.inl (if_neg h)
  · exact Or.inr (if_neg h)

/-- Two numbers that are not both plain are compared as floating point numbers, to which integers are
    rounded. Two zeros may meet as durations. -/
theorem compare_of_not_isPlainNumber (ha : a.quanta? = some q) (hb : b.quanta? = some r)
    (hplain : ¬ (a.isPlainNumber ∧ b.isPlainNumber)) (harange : ¬ a.IsHuge) (hbrange : ¬ b.IsHuge) :
    ∃ c, a.compare b = .ok c ∧ c.less = decide (nearest q < nearest r) ∧
      c.greater = decide (nearest r < nearest q) := by
  have hsizes := sizes?_of_not_isPlainNumber ha hb hplain
  obtain ⟨x, hx, hxquanta⟩ := number?_of_quanta? ha harange
  obtain ⟨y, hy, hyquanta⟩ := number?_of_quanta? hb hbrange
  have hnumbers (hdurations : durations? a b = .ok none) :
      a.compare b = .ok (.numbers x y) := by
    have hnumbers : numbers? a b = .ok (some (.numbers x y)) := by
      rw [numbers?, hx, hy]
      rfl
    rw [compare, hsizes, hdurations, hnumbers]
    rfl
  have hless := less_of_quanta? hxquanta hyquanta
  have hgreater := less_of_quanta? hyquanta hxquanta
  rcases duration?_of_quanta? ha harange with hnone | ⟨hfirst, hqzero⟩
  · have hdurations : durations? a b = .ok none := by
      rw [durations?, hnone]
      rfl
    exact ⟨_, hnumbers hdurations, hless, hgreater⟩
  · rcases duration?_of_quanta? hb hbrange with hnone | ⟨hsecond, hrzero⟩
    · have hdurations : durations? a b = .ok none := by
        rw [durations?, hfirst, hnone]
        rfl
      exact ⟨_, hnumbers hdurations, hless, hgreater⟩
    · have hcompare := compare_of_duration? (sizes?_eq_none_iff.mp hsizes) hfirst hsecond
      refine ⟨_, hcompare, ?_, ?_⟩
      · rw [hqzero, hrzero]
        rfl
      · rw [hqzero, hrzero]
        rfl

/-- There is no answer for two numbers that are not both plain, one of them beyond the range. -/
theorem compare_ne_ok_of_isHuge (ha : a.quanta? = some q) (hb : b.quanta? = some r)
    (hplain : ¬ (a.isPlainNumber ∧ b.isPlainNumber)) (hhuge : a.IsHuge ∨ b.IsHuge) (c : Comparable) :
    a.compare b ≠ .ok c := by
  intro hcompare
  rw [compare, sizes?_of_not_isPlainNumber ha hb hplain] at hcompare
  obtain ⟨d, hd, hcompare⟩ := bind_eq_ok_iff.mp hcompare
  obtain rfl : d = none := by
    obtain ⟨x, hx, hd⟩ := bind_eq_ok_iff.mp hd
    cases x with
    | none => exact (Except.ok.inj hd).symm
    | some x =>
      obtain ⟨y, hy, hd⟩ := bind_eq_ok_iff.mp hd
      rcases hhuge with hhuge | hhuge
      · cases hhuge.eq_none_of_duration? hx
      · rw [hhuge.eq_none_of_duration? hy] at hd
        exact (Except.ok.inj hd).symm
  obtain ⟨n, hn, -⟩ := bind_eq_ok_iff.mp hcompare
  obtain ⟨x, hx, hn⟩ := bind_eq_ok_iff.mp hn
  by_cases hfirst : a.IsHuge
  · rw [hfirst.number?_eq] at hx
    cases hx
  · obtain ⟨z, hz, -⟩ := number?_of_quanta? ha hfirst
    rw [hz] at hx
    obtain rfl := Except.ok.inj hx
    obtain ⟨y, hy, -⟩ := bind_eq_ok_iff.mp hn
    rw [(hhuge.resolve_left hfirst).number?_eq] at hy
    cases hy

/-- Whatever the scale, no number is found to be less than another one that is not greater. -/
theorem lt_of_compare {c : Comparable} (ha : a.quanta? = some q) (hb : b.quanta? = some r)
    (hcompare : a.compare b = .ok c) : (c.less = true → q < r) ∧ (c.greater = true → r < q) := by
  by_cases hplain : a.isPlainNumber ∧ b.isPlainNumber
  · rw [compare_of_isPlainNumber ha hb hplain] at hcompare
    obtain rfl := Except.ok.inj hcompare
    have hmono {m n : Int} (hlt : m.tdiv scale < n.tdiv scale) : m < n := by
      by_contra hle
      have hscale : 0 < (scale : Int) := Int.natCast_pos.mpr scale_pos
      exact absurd (Int.tdiv_le_tdiv hscale (Int.not_lt.mp hle)) (Int.not_le.mpr hlt)
    exact ⟨fun hless => hmono (of_decide_eq_true hless),
      fun hgreater => hmono (of_decide_eq_true hgreater)⟩
  · have hmono {m n : Int} (hlt : nearest m < nearest n) : m < n := by
      by_contra hle
      exact absurd (nearest_mono (Int.not_lt.mp hle)) (Int.not_le.mpr hlt)
    by_cases hhuge : a.IsHuge ∨ b.IsHuge
    · exact absurd hcompare (compare_ne_ok_of_isHuge ha hb hplain hhuge c)
    · rw [not_or] at hhuge
      obtain ⟨d, hd, hless, hgreater⟩ := compare_of_not_isPlainNumber ha hb hplain hhuge.1 hhuge.2
      rw [hd] at hcompare
      obtain rfl := Except.ok.inj hcompare
      rw [hless, hgreater]
      exact ⟨fun h => hmono (of_decide_eq_true h), fun h => hmono (of_decide_eq_true h)⟩

end Value

end RecordFilter
