import RecordFilter.Proofs.Outcome
import RecordFilter.Proofs.Quantity.NumberText
import RecordFilter.Proofs.Value.Display
import RecordFilter.Value.Comparison

/-!
Which two values cannot be ordered: integers beyond the range of floating point numbers, where the
scale of numbers is come to.
-/

namespace RecordFilter

namespace Duration

/-- The digits of an integer have no unit, and are no compact form unless they are a zero. -/
theorem readCompact_ofInt {i : Int} (hi : i ≠ 0) :
    (readCompact (Text.ofInt i)).toOption = none := by
  refine Numeral.readCompact_toOption_of_readFloat? (Binary64.readFloat?_ofInt i) ?_
  rw [Numeral.takeSign_ofInt]
  intro heq
  dsimp only at heq
  have hvalue := Text.ofDigits_ofNat i.natAbs
  rw [heq] at hvalue
  have hzero : Text.ofDigits ['0'] = 0 := rfl
  omega

theorem readCluster_ofInt (i : Int) : (readCluster (Text.ofInt i)).toOption = none :=
  Numeral.readCluster_of_readFloat? (Binary64.readFloat?_ofInt i)

end Duration

namespace Value

theorem floatOf_of_lt {i : Int} (hi : i.natAbs < Binary64.integerLimit) :
    ∃ x, floatOf i = .ok x := by
  cases hx : Binary64.ofInt? i with
  | none => exact absurd (Binary64.ofInt?_eq_none_iff.mp hx) (Nat.not_le.mpr hi)
  | some x => exact ⟨x, by rw [floatOf, hx]; rfl⟩

theorem floatOf_of_le {i : Int} (hi : Binary64.integerLimit ≤ i.natAbs) :
    floatOf i = .error .numberTooLarge := by
  rw [floatOf, Binary64.ofInt?_eq_none_iff.mpr hi]
  rfl

/-- An integer beyond the range of floating point numbers. -/
inductive IsHuge : Value → Prop
  | integer {i : Int} (hi : Binary64.integerLimit ≤ i.natAbs) : IsHuge (integer i)

theorem natAbs_lt_of_not_isHuge {i : Int} (hi : ¬ IsHuge (integer i)) :
    i.natAbs < Binary64.integerLimit :=
  Nat.not_le.mp fun hle => hi (.integer hle)

/-- A floating point number, or a text that reads as one. -/
def HasNumber (v : Value) : Prop :=
  ∃ x, v.number? = .ok (some x)

/-- The order of the values is not decided on the scales of sizes and durations, and one of them is
    beyond the range of numbers. The second one only counts if the first is a number. -/
def Overflows (a b : Value) : Prop :=
  a.IsHuge ∧ b.byteCount? = none ∨ b.IsHuge ∧ a.byteCount? = none ∧ a.HasNumber

theorem byteCount?_of_display {v : Value} {t : Text} (hboolean : ∀ b, v ≠ boolean b)
    (hinteger : ∀ i, v ≠ integer i) (hsize : ∀ n, v ≠ size n) (ht : v.display = .ok t) :
    v.byteCount? = (Quantity.readSize t).toOption := by
  cases v with
  | boolean b => exact absurd rfl (hboolean b)
  | integer i => exact absurd rfl (hinteger i)
  | size n => exact absurd rfl (hsize n)
  | _ => simp only [byteCount?, ht, Except.toOption, Option.bind_some]

theorem duration?_of_display {v : Value} {t : Text} (hv : ∀ d, v ≠ duration d)
    (ht : v.display = .ok t) :
    v.duration? =
      .ok ((Duration.readCluster t).toOption.or (Duration.readCompact t).toOption) := by
  cases v with
  | duration d => exact absurd rfl (hv d)
  | _ => simp only [duration?, ht]; rfl

theorem byteCount?_text (t : Text) : (text t).byteCount? = (Quantity.readSize t).toOption :=
  rfl

theorem duration?_text (t : Text) : (text t).duration? =
    .ok ((Duration.readCluster t).toOption.or (Duration.readCompact t).toOption) :=
  rfl

theorem Writable.exists_duration? {v : Value} (hv : v.Writable) : ∃ d, v.duration? = .ok d := by
  obtain ⟨t, ht⟩ := hv.exists_display
  by_cases hduration : ∃ d, v = .duration d
  · obtain ⟨d, rfl⟩ := hduration
    exact ⟨some d, rfl⟩
  · exact ⟨_, duration?_of_display (fun d hd => hduration ⟨d, hd⟩) ht⟩

theorem IsHuge.exists_byteCount? {v : Value} (hhuge : v.IsHuge) : ∃ n, v.byteCount? = some n := by
  cases hhuge with
  | integer hi => exact ⟨_, rfl⟩

theorem IsHuge.eq_none_of_duration? {v : Value} {d : Option Duration} (hhuge : v.IsHuge)
    (hd : v.duration? = .ok d) : d = none := by
  cases hhuge with
  | @integer i hi =>
    have hne : i ≠ 0 :=
      Int.natAbs_pos.mp (Nat.lt_of_lt_of_le Binary64.integerLimit_pos hi)
    obtain ⟨t, ht, hread⟩ := bind_eq_ok_iff.mp hd
    have htext : t = Text.ofInt i := by
      rw [display, integerText] at ht
      split at ht
      · exact (Except.ok.inj ht).symm
      · cases ht
    rw [htext, Duration.readCluster_ofInt, Duration.readCompact_ofInt hne] at hread
    exact (Except.ok.inj hread).symm

theorem IsHuge.duration?_eq {v : Value} (hhuge : v.IsHuge) (hv : v.Writable) :
    v.duration? = .ok none := by
  obtain ⟨d, hd⟩ := hv.exists_duration?
  rw [hd, hhuge.eq_none_of_duration? hd]

theorem IsHuge.number?_eq {v : Value} (hhuge : v.IsHuge) :
    v.number? = .error .numberTooLarge := by
  cases hhuge with
  | integer hi => rw [number?, floatOf_of_le hi]; rfl

theorem Writable.exists_number? {v : Value} (hv : v.Writable) (hhuge : ¬ v.IsHuge) :
    ∃ x, v.number? = .ok x := by
  cases hv.convertible with
  | @integer i hi =>
    obtain ⟨x, hx⟩ := floatOf_of_lt (natAbs_lt_of_not_isHuge hhuge)
    exact ⟨some x, by rw [number?, hx]; rfl⟩
  | size hn =>
    obtain ⟨x, hx⟩ := floatOf_of_lt hn
    exact ⟨some x, by rw [number?, hx]; rfl⟩
  | _ => exact ⟨_, rfl⟩

theorem sizes?_eq_none_iff {a b : Value} :
    sizes? a b = none ↔ a.byteCount? = none ∨ b.byteCount? = none := by
  rw [sizes?]
  cases a.byteCount? <;> cases b.byteCount? <;> simp

/-- Values that both have a size are compared by it. -/
theorem compare_of_byteCount? {a b : Value} {m n : Int} (ha : a.byteCount? = some m)
    (hb : b.byteCount? = some n) : a.compare b = .ok (.sizes m n) := by
  have hsizes : sizes? a b = some (.sizes m n) := by
    rw [sizes?, ha, hb]
    rfl
  rw [compare, hsizes]
  rfl

/-- Values that are not both sizes, and both have a duration, are compared by that. -/
theorem compare_of_duration? {a b : Value} {c d : Duration}
    (hsizes : a.byteCount? = none ∨ b.byteCount? = none) (ha : a.duration? = .ok (some c))
    (hb : b.duration? = .ok (some d)) : a.compare b = .ok (.durations c d) := by
  have hdurations : durations? a b = .ok (some (.durations c d)) := by
    rw [durations?, ha, hb]
    rfl
  rw [compare, sizes?_eq_none_iff.mpr hsizes, hdurations]
  rfl

/-- The scale on which two values are compared is the first one that both are on. -/
theorem compare_scale {a b : Value} {c : Comparable} (hcompare : a.compare b = .ok c) :
    sizes? a b = some c ∨ sizes? a b = none ∧
      (durations? a b = .ok (some c) ∨ durations? a b = .ok none ∧
        (numbers? a b = .ok (some c) ∨ numbers? a b = .ok none ∧
          ∃ s t, a.display = .ok s ∧ b.display = .ok t ∧ c = .texts s t)) := by
  rw [compare] at hcompare
  cases hsizes : sizes? a b with
  | some other =>
    rw [hsizes] at hcompare
    exact Or.inl (congrArg some (Except.ok.inj hcompare))
  | none =>
    rw [hsizes] at hcompare
    refine Or.inr ⟨rfl, ?_⟩
    obtain ⟨found, hdurations, hcompare⟩ := bind_eq_ok_iff.mp hcompare
    cases found with
    | some other =>
      obtain rfl := Except.ok.inj hcompare
      exact Or.inl hdurations
    | none =>
      refine Or.inr ⟨hdurations, ?_⟩
      obtain ⟨found, hnumbers, hcompare⟩ := bind_eq_ok_iff.mp hcompare
      cases found with
      | some other =>
        obtain rfl := Except.ok.inj hcompare
        exact Or.inl hnumbers
      | none =>
        obtain ⟨s, hs, hcompare⟩ := bind_eq_ok_iff.mp hcompare
        obtain ⟨t, ht, hcompare⟩ := bind_eq_ok_iff.mp hcompare
        exact Or.inr ⟨hnumbers, s, t, hs, ht, (Except.ok.inj hcompare).symm⟩

theorem exists_durations? {a b : Value} (ha : a.Writable) (hb : b.Writable) :
    ∃ c, durations? a b = .ok c := by
  obtain ⟨x, hx⟩ := ha.exists_duration?
  obtain ⟨y, hy⟩ := hb.exists_duration?
  cases x with
  | none => exact ⟨none, by rw [durations?, hx]; rfl⟩
  | some x => exact ⟨y.map (.durations x), by rw [durations?, hx, hy]; rfl⟩

/-- A value beyond the range of numbers is not on the scale of durations either. -/
theorem durations?_of_isHuge {a b : Value} (ha : a.Writable) (hb : b.Writable)
    (hhuge : a.IsHuge ∨ b.IsHuge) : durations? a b = .ok none := by
  rcases hhuge with hhuge | hhuge
  · rw [durations?, hhuge.duration?_eq ha]
    rfl
  · obtain ⟨x, hx⟩ := ha.exists_duration?
    rw [durations?, hx, hhuge.duration?_eq hb]
    cases x <;> rfl

theorem numbers?_eq_error_iff {a b : Value} {fault : Fault} (ha : a.Writable) (hb : b.Writable) :
    numbers? a b = .error fault ↔
      fault = .numberTooLarge ∧ (a.IsHuge ∨ a.HasNumber ∧ b.IsHuge) := by
  by_cases hhuge : a.IsHuge
  · rw [numbers?, hhuge.number?_eq]
    exact ⟨fun h => ⟨(Except.error.inj h).symm, Or.inl hhuge⟩, fun h => congrArg _ h.1.symm⟩
  · obtain ⟨x, hx⟩ := ha.exists_number? hhuge
    cases x with
    | none =>
      have hnone : ¬ a.HasNumber := by
        rintro ⟨x, hsome⟩
        rw [hx] at hsome
        cases hsome
      rw [numbers?, hx]
      exact ⟨nofun, fun h => absurd h.2 (by simp [hhuge, hnone])⟩
    | some x =>
      rw [numbers?, hx]
      by_cases hother : b.IsHuge
      · rw [hother.number?_eq]
        exact ⟨fun h => ⟨(Except.error.inj h).symm, Or.inr ⟨⟨x, hx⟩, hother⟩⟩,
          fun h => congrArg _ h.1.symm⟩
      · obtain ⟨y, hy⟩ := hb.exists_number? hother
        rw [hy]
        exact ⟨nofun, fun h => absurd h.2 (by simp [hhuge, hother])⟩

/-- Two values can be ordered unless the range of numbers is exceeded. -/
theorem compare_eq_error_iff {a b : Value} {fault : Fault} (ha : a.Writable) (hb : b.Writable) :
    a.compare b = .error fault ↔ fault = .numberTooLarge ∧ Overflows a b := by
  obtain ⟨d, hd⟩ := exists_durations? ha hb
  obtain ⟨s, hs⟩ := ha.exists_display
  obtain ⟨t, ht⟩ := hb.exists_display
  have hscale : Overflows a b ↔ sizes? a b = none ∧ (a.IsHuge ∨ a.HasNumber ∧ b.IsHuge) := by
    rw [sizes?_eq_none_iff]
    constructor
    · rintro (⟨hhuge, hsize⟩ | ⟨hhuge, hsize, hnumber⟩)
      · exact ⟨Or.inr hsize, Or.inl hhuge⟩
      · exact ⟨Or.inl hsize, Or.inr ⟨hnumber, hhuge⟩⟩
    · rintro ⟨hsize, hhuge | ⟨hnumber, hhuge⟩⟩
      · obtain ⟨n, hn⟩ := hhuge.exists_byteCount?
        exact Or.inl ⟨hhuge, hsize.resolve_left (by simp [hn])⟩
      · obtain ⟨n, hn⟩ := hhuge.exists_byteCount?
        exact Or.inr ⟨hhuge, hsize.resolve_right (by simp [hn]), hnumber⟩
  rw [hscale, compare, hd]
  cases hsizes : sizes? a b with
  | some c => exact ⟨nofun, fun h => absurd h.2.1 (Option.some_ne_none c)⟩
  | none =>
    cases d with
    | some c =>
      refine ⟨nofun, fun ⟨_, _, hhuge⟩ => ?_⟩
      have hnone := durations?_of_isHuge ha hb (hhuge.imp_right And.right)
      rw [hd] at hnone
      cases hnone
    | none =>
      have hnumbers : numbers? a b = .error fault ↔ _ := numbers?_eq_error_iff ha hb
      rw [and_iff_right rfl, ← hnumbers]
      cases hn : numbers? a b with
      | error e =>
        exact ⟨fun h => congrArg _ (Except.error.inj h), fun h => congrArg _ (Except.error.inj h)⟩
      | ok c =>
        cases c with
        | some c => exact ⟨nofun, nofun⟩
        | none =>
          rw [hs, ht]
          exact ⟨nofun, nofun⟩

/-- A value that is nested too deeply is on no scale, and it has no text to be compared by. -/
theorem Convertible.compare_of_tooDeep {a : Value} (ha : a.Convertible) (hdeep : a.TooDeep)
    (b : Value) : a.compare b = .error .nestedTooDeeply := by
  have hshown := ha.display_of_tooDeep hdeep
  have hviews : a.byteCount? = none ∧ a.duration? = .error .nestedTooDeeply := by
    rcases hdeep.cases with ⟨items, rfl⟩ | ⟨items, rfl⟩ | ⟨entries, rfl⟩ <;>
      exact ⟨by simp only [byteCount?, hshown]; rfl, by simp only [duration?, hshown]; rfl⟩
  obtain ⟨hsize, hduration⟩ := hviews
  rw [compare, sizes?_eq_none_iff.mpr (Or.inl hsize), durations?, hduration]
  rfl

theorem TooDeep.not_overflows {a b : Value} (hdeep : a.TooDeep) : ¬ a.Overflows b := by
  rintro (⟨hhuge, -⟩ | ⟨-, -, x, hx⟩) <;>
    rcases hdeep.cases with ⟨items, rfl⟩ | ⟨items, rfl⟩ | ⟨entries, rfl⟩
  · cases hhuge
  · cases hhuge
  · cases hhuge
  · cases hx
  · cases hx
  · cases hx

end Value

end RecordFilter
