import RecordFilter.Proofs.Quantity.ClockText
import RecordFilter.Proofs.Value.Numbers

/-!
Values that are shown alike, and so are equal.

What is read from the text of a value is the same for all values with that text, and an integer, a
number or a duration is what its text is read as, if that is read at all. So values that are shown
alike are not ordered, with one exception: the digits of an integer are rounded where they are read
as a size, and the integer is not (`InexactDigits`).
-/

namespace RecordFilter

namespace Text

theorem before_self (t : Text) : before t t = false := by
  induction t with
  | nil => rfl
  | cons c t ih => rw [before, if_pos rfl, ih]

theorem before_asymm {s t : Text} (hbefore : before s t = true) : before t s = false := by
  induction s generalizing t with
  | nil =>
    cases t with
    | nil => rfl
    | cons d t => rfl
  | cons c s ih =>
    cases t with
    | nil => cases hbefore
    | cons d t =>
      rw [before] at hbefore ⊢
      by_cases heq : c = d
      · rw [if_pos heq] at hbefore
        rw [if_pos heq.symm, ih hbefore]
      · rw [if_neg heq] at hbefore
        rw [if_neg (Ne.symm heq)]
        have hlt := of_decide_eq_true hbefore
        exact decide_eq_false (by omega)

end Text

namespace Binary64

theorem less_self (x : Binary64) : x.less x = false := by
  cases x with
  | finite negative quanta h => exact decide_eq_false (Int.lt_irrefl _)
  | infinite negative => cases negative <;> rfl
  | nan => rfl

theorem less_asymm {x y : Binary64} (hless : x.less y = true) : y.less x = false := by
  cases x with
  | finite s a ha =>
    cases y with
    | finite t b hb => exact decide_eq_false (Int.lt_asymm (of_decide_eq_true hless))
    | infinite t =>
      cases t with
      | true => cases hless
      | false => rfl
    | nan => cases hless
  | infinite s =>
    cases s with
    | false =>
      cases y <;> cases hless
    | true =>
      cases y with
      | finite t b hb => rfl
      | infinite t => exact Bool.and_false t
      | nan => cases hless
  | nan => cases hless

/-- Numbers with one count are not ordered, and neither are numbers without one that are the same. -/
theorem less_eq_false_of_quanta? {x y : Binary64} (hquanta : x.quanta? = y.quanta?)
    (hnone : x.quanta? = none → x = y) : x.less y = false := by
  cases hx : x.quanta? with
  | none => rw [hnone hx, less_self]
  | some q => rw [less_of_quanta? hx (hquanta ▸ hx), decide_eq_false (Int.lt_irrefl q)]

end Binary64

theorem Comparable.not_less_and_greater (c : Comparable) :
    ¬ (c.less = true ∧ c.greater = true) := by
  rintro ⟨hless, hgreater⟩
  cases c with
  | sizes m n => exact Int.lt_asymm (of_decide_eq_true hless) (of_decide_eq_true hgreater)
  | durations d e => exact Int.lt_asymm (of_decide_eq_true hless) (of_decide_eq_true hgreater)
  | numbers x y => exact Bool.false_ne_true ((Binary64.less_asymm hless).symm.trans hgreater)
  | texts s t => exact Bool.false_ne_true ((Text.before_asymm hless).symm.trans hgreater)

namespace Numeral

theorem isPlain_ofInt (i : Int) : isPlain (Text.ofInt i) = decide (0 ≤ i) := by
  have hdigits := Text.digits_ofNat i.natAbs
  rw [Text.ofInt]
  split
  · rename_i hneg
    rw [isPlain_cons _ (by decide), decide_eq_false (Int.not_le.mpr hneg)]
  · rename_i hnonneg
    rw [decide_eq_true (Int.not_lt.mp hnonneg)]
    simp [isPlain, takeDigits_of_digits hdigits, hdigits.ne_nil]

end Numeral

namespace Binary64

theorem natAbs_nearest (q : Int) : (nearest q).natAbs = roundQuanta q.natAbs 1 := by
  rw [nearest]
  split
  · rw [Int.natAbs_neg, Int.natAbs_natCast]
  · rw [Int.natAbs_natCast]

/-- The whole part of the number nearest to an integer is the integer if that is a number. -/
theorem tdiv_nearest_eq_iff {i : Int} (hi : i.natAbs < integerLimit) :
    (nearest (i * scale)).tdiv scale = i ↔ Representable (i.natAbs * scale) := by
  constructor
  · intro hwhole
    have hdiv := congrArg Int.natAbs hwhole
    rw [Int.natAbs_tdiv, natAbs_nearest, natAbs_mul_scale, Int.natAbs_natCast] at hdiv
    rwa [← roundQuanta_eq_of_div_eq hdiv, representable_rounded_iff]
  · intro hrepresentable
    have hscale : (scale : Int) ≠ 0 := Int.natCast_ne_zero.mpr (Nat.ne_of_gt scale_pos)
    rw [← natAbs_mul_scale] at hrepresentable
    rw [nearest_of_representable hrepresentable, Int.mul_tdiv_cancel _ hscale]

end Binary64

open Binary64

theorem Quantity.readSize_ofInt (i : Int) :
    (readSize (Text.ofInt i)).toOption =
      if 0 ≤ i ∧ i.natAbs < integerLimit then some ((nearest (i * scale)).tdiv scale) else none := by
  rw [Numeral.readSize_of_readFloat? (readFloat?_ofInt i), Numeral.isPlain_ofInt]
  by_cases hi : i.natAbs < integerLimit
  · simp only [truncate?_of_quanta? (quanta?_rounded hi), decide_eq_true_eq, hi, and_true]
  · have hrange : ¬ Representable (roundQuanta (i.natAbs * scale) 1) := by
      rwa [representable_rounded_iff]
    rw [rounded_of_not_representable hrange, if_neg (c := 0 ≤ i ∧ _) fun h => hi h.2]
    split <;> rfl

namespace Value

variable {a b v : Value} {shown : Text}

/-- The first value is the digits of the second, an integer that is no floating point number. -/
def InexactDigits (a b : Value) : Prop :=
  ∃ i : Int, 0 ≤ i ∧ ¬ Representable (i.natAbs * scale) ∧ a = text (Text.ofInt i) ∧
    (b = integer i ∨ b = size i)

theorem display_size_or_integer {i : Int} (hv : v = integer i ∨ v = size i) :
    v.display = integerText i := by
  rcases hv with rfl | rfl <;> rfl

theorem ofInt_of_integerText {i : Int} (hshown : integerText i = .ok shown) :
    shown = Text.ofInt i ∧ i.natAbs < 10 ^ digitLimit := by
  rw [integerText, writtenLimit_eq] at hshown
  split at hshown
  · rename_i hwritten
    exact ⟨(Except.ok.inj hshown).symm, hwritten⟩
  · cases hshown

/-- The values that are shown as the digits of an integer. -/
theorem eq_of_display_ofInt {i : Int} (hv : v.display = .ok (Text.ofInt i)) :
    (v = integer i ∨ v = size i) ∨ v = text (Text.ofInt i) ∨
      ∃ x, v = float x ∧ x.quanta? = some (i * scale) := by
  have hother {t : Text} {c : Char} (ht : t = Text.ofInt i) (hmem : c ∈ t)
      (hc : ¬ Text.isPlainDigit c) (hne : c ≠ '-') : False :=
    Text.ne_ofInt_of_mem hmem hc hne i ht
  cases v with
  | null => exact absurd (Except.ok.inj hv) (Text.ofInt_ne_nil i).symm
  | boolean value =>
    exfalso
    have ht := Except.ok.inj hv
    cases value with
    | true => exact hother ht (c := 't') (by decide) (by decide) (by decide)
    | false => exact hother ht (c := 'f') (by decide) (by decide) (by decide)
  | integer j =>
    obtain ⟨heq, -⟩ := ofInt_of_integerText hv
    rw [Numeral.ofInt_inj heq]
    exact Or.inl (Or.inl rfl)
  | float x =>
    have ht := Except.ok.inj hv
    rcases floatText_cases x with hown | ⟨j, hwhole, hquanta, -⟩
    · exact absurd (hown.symm.trans ht) (text_ne_ofInt x i)
    · rw [Numeral.ofInt_inj (ht.symm.trans hwhole)]
      exact Or.inr (Or.inr ⟨x, rfl, hquanta⟩)
  | size n =>
    obtain ⟨heq, -⟩ := ofInt_of_integerText hv
    rw [Numeral.ofInt_inj heq]
    exact Or.inl (Or.inr rfl)
  | duration d =>
    exact (hother (Except.ok.inj hv) (Duration.colon_mem_text d) (by decide) (by decide)).elim
  | date d =>
    have hyear := Text.digits_padStart 4 (Text.digits_ofNat d.year)
    exact absurd (Except.ok.inj hv) (Text.append_hyphen_ne_ofInt hyear i)
  | moment m =>
    have hblank : ' ' ∈ m.text := by simp [Moment.text]
    exact (hother (Except.ok.inj hv) hblank (by decide) (by decide)).elim
  | text t =>
    obtain rfl := Except.ok.inj hv
    exact Or.inr (Or.inl rfl)
  | tuple items =>
    rw [display, denoted, nestingLimit, denotedWithin] at hv
    obtain ⟨parts, -, ht⟩ := bind_eq_ok_iff.mp hv
    have hopen : '(' ∈ tupleText parts := by
      unfold tupleText
      split <;> simp
    exact (hother (Except.ok.inj ht) hopen (by decide) (by decide)).elim
  | list items =>
    rw [display, denoted, nestingLimit, denotedWithin] at hv
    obtain ⟨parts, -, ht⟩ := bind_eq_ok_iff.mp hv
    exact (hother (Except.ok.inj ht) List.mem_cons_self (by decide) (by decide)).elim
  | dict entries =>
    rw [display, denoted, nestingLimit, denotedWithin] at hv
    obtain ⟨parts, -, ht⟩ := bind_eq_ok_iff.mp hv
    exact (hother (Except.ok.inj ht) List.mem_cons_self (by decide) (by decide)).elim

/-- The size of a value is read from its text, or the value is an integer. -/
theorem byteCount?_cases {n : Int} (hshown : v.display = .ok shown) (hn : v.byteCount? = some n) :
    (Quantity.readSize shown).toOption = some n ∨ v = integer n ∨ v = size n := by
  by_cases hinteger : ∃ i, v = integer i ∨ v = size i
  · obtain ⟨i, rfl | rfl⟩ := hinteger
    · rw [Option.some.inj hn]
      exact Or.inr (Or.inl rfl)
    · rw [Option.some.inj hn]
      exact Or.inr (Or.inr rfl)
  · have hboolean : ∀ b, v ≠ boolean b := by
      rintro b rfl
      cases hn
    rw [byteCount?_of_display hboolean (fun i hi => hinteger ⟨i, Or.inl hi⟩)
      (fun i hi => hinteger ⟨i, Or.inr hi⟩) hshown] at hn
    exact Or.inl hn

theorem eq_or_inexactDigits {m n : Int} (hshown : a.display = .ok (Text.ofInt n))
    (hm : a.byteCount? = some m) (hread : (Quantity.readSize (Text.ofInt n)).toOption = some m)
    (hb : b = integer n ∨ b = size n) : m = n ∨ InexactDigits a b := by
  rw [Quantity.readSize_ofInt] at hread
  split at hread
  · rename_i hrange
    obtain rfl := Option.some.inj hread
    by_cases hexact : Representable (n.natAbs * scale)
    · exact Or.inl ((tdiv_nearest_eq_iff hrange.2).mpr hexact)
    · rcases eq_of_display_ofInt hshown with (rfl | rfl) | rfl | ⟨x, rfl, hquanta⟩
      · exact Or.inl (Option.some.inj hm).symm
      · exact Or.inl (Option.some.inj hm).symm
      · exact Or.inr ⟨n, hrange.1, hexact, rfl, hb⟩
      · have hrepresentable := representable_of_quanta? hquanta
        rw [natAbs_mul_scale] at hrepresentable
        exact absurd hrepresentable hexact
  · cases hread

theorem byteCount?_unique {m n : Int} (ha : a.display = .ok shown) (hb : b.display = .ok shown)
    (hm : a.byteCount? = some m) (hn : b.byteCount? = some n) (hab : ¬ InexactDigits a b)
    (hba : ¬ InexactDigits b a) : m = n := by
  rcases byteCount?_cases ha hm with hread | hinteger
  · rcases byteCount?_cases hb hn with hother | hinteger
    · exact Option.some.inj (hread.symm.trans hother)
    · rw [display_size_or_integer hinteger] at hb
      obtain ⟨rfl, -⟩ := ofInt_of_integerText hb
      exact (eq_or_inexactDigits ha hm hread hinteger).resolve_right hab
  · rw [display_size_or_integer hinteger] at ha
    obtain ⟨rfl, -⟩ := ofInt_of_integerText ha
    rcases byteCount?_cases hb hn with hread | hother
    · exact ((eq_or_inexactDigits hb hn hread hinteger).resolve_right hba).symm
    · rw [display_size_or_integer hother] at hb
      obtain ⟨heq, -⟩ := ofInt_of_integerText hb
      exact Numeral.ofInt_inj heq

/-- The duration of a value is read from its text, or the value is a duration. -/
theorem duration?_cases {d : Duration} (hshown : v.display = .ok shown)
    (hd : v.duration? = .ok (some d)) :
    (Duration.readCluster shown).toOption.or (Duration.readCompact shown).toOption = some d ∨
      shown = d.text := by
  by_cases hduration : ∃ e, v = duration e
  · obtain ⟨e, rfl⟩ := hduration
    obtain rfl := Option.some.inj (Except.ok.inj hd)
    exact Or.inr (Except.ok.inj hshown).symm
  · rw [duration?_of_display (fun e he => hduration ⟨e, he⟩) hshown] at hd
    exact Or.inl (Except.ok.inj hd)

/-- The text of a duration is read as that duration only. -/
theorem eq_of_read_text {d e : Duration}
    (hread : (Duration.readCluster e.text).toOption.or (Duration.readCompact e.text).toOption =
      some d) : d = e := by
  rw [Duration.readCompact_text, Option.or_none] at hread
  exact (Duration.eq_of_readCluster_text (toOption_eq_some_iff.mp hread)).2

theorem duration?_unique {d e : Duration} (ha : a.display = .ok shown) (hb : b.display = .ok shown)
    (hd : a.duration? = .ok (some d)) (he : b.duration? = .ok (some e)) : d = e := by
  rcases duration?_cases ha hd with hread | htext
  · rcases duration?_cases hb he with hother | rfl
    · exact Option.some.inj (hread.symm.trans hother)
    · exact eq_of_read_text hread
  · rcases duration?_cases hb he with hread | hother
    · subst htext
      exact (eq_of_read_text hread).symm
    · exact Duration.text_injective (htext.symm.trans hother)

theorem rounded_of_floatOf {i : Int} {x : Binary64} (hx : floatOf i = .ok x) :
    rounded (i < 0) (i.natAbs * scale) 1 = x := by
  rw [floatOf, ofInt?] at hx
  cases hrounded : rounded (i < 0) (i.natAbs * scale) 1 with
  | infinite negative =>
    rw [hrounded] at hx
    cases hx
  | _ =>
    rw [hrounded] at hx
    exact Except.ok.inj hx

/-- The number of a value is what its text is read as, but for the sign of a zero. -/
theorem readFloat?_of_number? {x : Binary64} (hshown : v.display = .ok shown)
    (hx : v.number? = .ok (some x)) :
    ∃ y, Numeral.readFloat? shown = some y ∧ y.quanta? = x.quanta? ∧ (x.quanta? = none → y = x) := by
  have hinteger {i : Int} (hdigits : integerText i = .ok shown)
      (hfloat : (floatOf i).map some = .ok (some x)) : Numeral.readFloat? shown = some x := by
    obtain ⟨rfl, -⟩ := ofInt_of_integerText hdigits
    obtain ⟨y, hy, hsame⟩ := map_eq_ok_iff.mp hfloat
    rw [readFloat?_ofInt, rounded_of_floatOf hy, hsame]
  cases v with
  | integer i => exact ⟨x, hinteger hshown hx, rfl, fun _ => rfl⟩
  | size n => exact ⟨x, hinteger hshown hx, rfl, fun _ => rfl⟩
  | float y =>
    obtain rfl := Option.some.inj (Except.ok.inj hx)
    obtain rfl := Except.ok.inj hshown
    exact exists_readFloat?_floatText y
  | text t =>
    obtain rfl := Except.ok.inj hshown
    refine ⟨x, ?_, rfl, fun _ => rfl⟩
    rw [← Quantity.toOption_readFloat]
    exact Except.ok.inj hx
  | _ => cases Except.ok.inj hx

theorem not_less_of_number? {x y : Binary64} (ha : a.display = .ok shown)
    (hb : b.display = .ok shown) (hx : a.number? = .ok (some x)) (hy : b.number? = .ok (some y)) :
    x.less y = false := by
  obtain ⟨z, hz, hzx, hnone⟩ := readFloat?_of_number? ha hx
  obtain ⟨w, hw, hwy, hnone'⟩ := readFloat?_of_number? hb hy
  obtain rfl := Option.some.inj (hz.symm.trans hw)
  refine less_eq_false_of_quanta? (hzx.symm.trans hwy) fun h => ?_
  rw [← hnone h, hnone' (hwy.symm.trans (hzx.trans h))]

theorem sizes?_eq_some {c : Comparable} (hsizes : sizes? a b = some c) :
    ∃ m n, a.byteCount? = some m ∧ b.byteCount? = some n ∧ c = .sizes m n := by
  obtain ⟨m, hm, hsizes⟩ := Option.bind_eq_some_iff.mp hsizes
  obtain ⟨n, hn, hsizes⟩ := Option.bind_eq_some_iff.mp hsizes
  exact ⟨m, n, hm, hn, (Option.some.inj hsizes).symm⟩

theorem durations?_eq_some {c : Comparable} (hdurations : durations? a b = .ok (some c)) :
    ∃ d e, a.duration? = .ok (some d) ∧ b.duration? = .ok (some e) ∧ c = .durations d e := by
  obtain ⟨d, hd, hdurations⟩ := bind_eq_ok_iff.mp hdurations
  cases d with
  | none => cases Except.ok.inj hdurations
  | some d =>
    obtain ⟨e, he, hdurations⟩ := bind_eq_ok_iff.mp hdurations
    obtain ⟨e, rfl, hsame⟩ := Option.map_eq_some_iff.mp (Except.ok.inj hdurations)
    exact ⟨d, e, hd, he, hsame.symm⟩

theorem numbers?_eq_some {c : Comparable} (hnumbers : numbers? a b = .ok (some c)) :
    ∃ x y, a.number? = .ok (some x) ∧ b.number? = .ok (some y) ∧ c = .numbers x y := by
  obtain ⟨x, hx, hnumbers⟩ := bind_eq_ok_iff.mp hnumbers
  cases x with
  | none => cases Except.ok.inj hnumbers
  | some x =>
    obtain ⟨y, hy, hnumbers⟩ := bind_eq_ok_iff.mp hnumbers
    obtain ⟨y, rfl, hsame⟩ := Option.map_eq_some_iff.mp (Except.ok.inj hnumbers)
    exact ⟨x, y, hx, hy, hsame.symm⟩

/-- The scales on which two values may meet. -/
theorem compare_cases {c : Comparable} (hcompare : a.compare b = .ok c) :
    (∃ m n, a.byteCount? = some m ∧ b.byteCount? = some n ∧ c = .sizes m n) ∨
      (∃ d e, a.duration? = .ok (some d) ∧ b.duration? = .ok (some e) ∧ c = .durations d e) ∨
      (∃ x y, a.number? = .ok (some x) ∧ b.number? = .ok (some y) ∧ c = .numbers x y) ∨
      ∃ s t, a.display = .ok s ∧ b.display = .ok t ∧ c = .texts s t := by
  rcases compare_scale hcompare with hsizes | ⟨-, hdurations | ⟨-, hnumbers | ⟨-, htexts⟩⟩⟩
  · exact Or.inl (sizes?_eq_some hsizes)
  · exact Or.inr (Or.inl (durations?_eq_some hdurations))
  · exact Or.inr (Or.inr (Or.inl (numbers?_eq_some hnumbers)))
  · exact Or.inr (Or.inr (Or.inr htexts))

/-- Values that are shown alike are not ordered, unless one is the digits of the other and these are
    rounded. -/
theorem not_less_of_display {c : Comparable} (ha : a.display = .ok shown)
    (hb : b.display = .ok shown) (hab : ¬ InexactDigits a b) (hba : ¬ InexactDigits b a)
    (hcompare : a.compare b = .ok c) : c.less = false ∧ c.greater = false := by
  rcases compare_cases hcompare with ⟨m, n, hm, hn, rfl⟩ | ⟨d, e, hd, he, rfl⟩ |
    ⟨x, y, hx, hy, rfl⟩ | ⟨s, t, hs, ht, rfl⟩
  · obtain rfl := byteCount?_unique ha hb hm hn hab hba
    have hself : (Comparable.sizes m m).less = false := decide_eq_false (Int.lt_irrefl m)
    exact ⟨hself, hself⟩
  · obtain rfl := duration?_unique ha hb hd he
    have hself : (Comparable.durations d d).less = false := decide_eq_false (Int.lt_irrefl _)
    exact ⟨hself, hself⟩
  · exact ⟨not_less_of_number? ha hb hx hy, not_less_of_number? hb ha hy hx⟩
  · obtain rfl := Except.ok.inj (hs.symm.trans ha)
    obtain rfl := Except.ok.inj (ht.symm.trans hb)
    exact ⟨Text.before_self _, Text.before_self _⟩

/-- In range, the digits of an integer and the integer meet as sizes. -/
theorem compare_ofInt_of_lt {i : Int} (hi : 0 ≤ i) (hrange : i.natAbs < integerLimit)
    (hb : b = integer i ∨ b = size i) :
    (text (Text.ofInt i)).compare b = .ok (.sizes ((nearest (i * scale)).tdiv scale) i) := by
  have hfirst : (text (Text.ofInt i)).byteCount? = some ((nearest (i * scale)).tdiv scale) := by
    rw [byteCount?_text, Quantity.readSize_ofInt, if_pos ⟨hi, hrange⟩]
  have hsecond : b.byteCount? = some i := by
    rcases hb with rfl | rfl <;> rfl
  exact compare_of_byteCount? hfirst hsecond

/-- Beyond the range the digits are read as infinity, and the integer has no number to meet it. -/
theorem compare_ofInt_of_le {i : Int} (hlarge : integerLimit ≤ i.natAbs)
    (hb : b = integer i ∨ b = size i) :
    (text (Text.ofInt i)).compare b = .error .numberTooLarge := by
  have hne : i ≠ 0 := Int.natAbs_pos.mp (Nat.lt_of_lt_of_le integerLimit_pos hlarge)
  have hsizes : sizes? (text (Text.ofInt i)) b = none := by
    rw [sizes?_eq_none_iff, byteCount?_text, Quantity.readSize_ofInt,
      if_neg fun hrange => Nat.not_lt.mpr hlarge hrange.2]
    exact Or.inl rfl
  have hdurations : durations? (text (Text.ofInt i)) b = .ok none := by
    rw [durations?, duration?_text, Duration.readCluster_ofInt, Duration.readCompact_ofInt hne]
    rfl
  have hfirst : (text (Text.ofInt i)).number? =
      .ok (some (rounded (i < 0) (i.natAbs * scale) 1)) := by
    rw [number?, Quantity.toOption_readFloat, readFloat?_ofInt]
  have hsecond : b.number? = .error .numberTooLarge := by
    rcases hb with rfl | rfl <;> rw [number?, floatOf_of_le hlarge] <;> rfl
  have hnumbers : numbers? (text (Text.ofInt i)) b = .error .numberTooLarge := by
    rw [numbers?, hfirst, hsecond]
    rfl
  rw [compare, hsizes, hdurations, hnumbers]
  rfl

/-- Digits that are rounded are less or greater than their integer, if the two can be compared. -/
theorem InexactDigits.less_or_greater {c : Comparable} (hdigits : InexactDigits a b)
    (hcompare : a.compare b = .ok c) : c.less = true ∨ c.greater = true := by
  obtain ⟨i, hi, hexact, rfl, hb⟩ := hdigits
  rcases Nat.lt_or_ge i.natAbs integerLimit with hrange | hlarge
  · rw [compare_ofInt_of_lt hi hrange hb] at hcompare
    obtain rfl := Except.ok.inj hcompare
    have hne : (nearest (i * scale)).tdiv scale ≠ i :=
      fun hwhole => hexact ((tdiv_nearest_eq_iff hrange).mp hwhole)
    rcases Int.lt_or_gt_of_ne hne with hlt | hgt
    · exact Or.inl (decide_eq_true hlt)
    · exact Or.inr (decide_eq_true hgt)
  · rw [compare_ofInt_of_le hlarge hb] at hcompare
    cases hcompare

end Value

end RecordFilter
