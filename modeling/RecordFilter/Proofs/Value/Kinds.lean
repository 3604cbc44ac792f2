import RecordFilter.Proofs.Clause.Values
import RecordFilter.Proofs.Value.Measures
import RecordFilter.Proofs.Value.Numbers
import RecordFilter.Proofs.Value.Settled

/-!
What the kind of a clause's value tells about the scales that the value is on.

A value is a size if it is an integer or of the kind of sizes, and a duration if it is of a kind of
durations. All others are neither, but for two cases that the kind does not tell: a floating point
number that is written with digits and a point at most is a size too, and a zero is a duration.
-/

namespace RecordFilter

theorem toOption_eq_none_of_map {ε α β : Type} {x : Except ε α} {f : α → β}
    (hx : (x.map f).toOption = none) : x.toOption = none := by
  cases x with
  | ok a => cases hx
  | error e => rfl

namespace Scalar

variable {t u : Text}

theorem eq_of_read_string (hread : read t = .string u) : u = t := by
  have hsame := read_eq_string_of_kind (t := t) (by rw [hread, kind])
  exact string.inj (hread.symm.trans hsame)

theorem toOption_readAs_of_read_string {kind : Kind} (hread : read t = .string u)
    (hkind : kind ∈ order) : (readAs kind t).toOption = none := by
  rw [read] at hread
  cases hfound : order.findSome? fun kind => (readAs kind t).toOption with
  | none => exact List.findSome?_eq_none_iff.mp hfound kind hkind
  | some s =>
    obtain ⟨other, hmem, hother⟩ := List.exists_of_findSome?_eq_some hfound
    have hstring : s = .string u := by rwa [hfound] at hread
    have hsame := kind_of_readAs hmem (toOption_eq_some_iff.mp hother)
    rw [← hsame, hstring, Scalar.kind] at hmem
    exact absurd hmem (by decide)

/-- A text that is kept as it is has no size. -/
theorem readSize_of_read_string (hread : read t = .string u) :
    (Quantity.readSize t).toOption = none :=
  toOption_eq_none_of_map (toOption_readAs_of_read_string hread (by decide : .memory ∈ order))

/-- A text that is kept as it is is no duration, in either form. -/
theorem readDuration_of_read_string (hread : read t = .string u) :
    (Duration.readCluster t).toOption.or (Duration.readCompact t).toOption = none := by
  rw [toOption_eq_none_of_map
      (toOption_readAs_of_read_string hread (by decide : .clusterDuration ∈ order)),
    toOption_eq_none_of_map
      (toOption_readAs_of_read_string hread (by decide : .duration ∈ order))]
  rfl

end Scalar

namespace Value

open Binary64

variable {v : Value}

/-- A floating point number has a size exactly if it is shown with digits and a point at most. -/
theorem byteCount?_float_eq_none_iff (x : Binary64) :
    (float x).byteCount? = none ↔ ¬ (float x).isPlainNumber := by
  obtain ⟨y, hread, hquanta, hsame⟩ := exists_readFloat?_floatText x
  rw [byteCount?_float, Numeral.readSize_of_readFloat? hread, isPlainNumber]
  cases hx : x.quanta? with
  | some q =>
    rw [truncate?_of_quanta? (hquanta.trans hx)]
    simp only [ite_eq_right_iff, reduceCtorEq, imp_false]
  | none =>
    have hplain : Numeral.isPlain (floatText x) = false := by
      cases x with
      | finite negative quanta h => cases hx
      | infinite negative => cases negative <;> decide
      | nan => decide
    simp [hplain]

/-- The value is a zero: an integer, a number of bytes or a floating point number. -/
def IsZero : Value → Prop
  | integer i => i = 0
  | size n => n = 0
  | float x => x.quanta? = some 0
  | _ => False

/-- An integer is a duration only if it is zero. -/
theorem duration?_eq_none_iff_of_integer {i : Int} (hv : v = integer i ∨ v = size i)
    (hi : i.natAbs < 10 ^ digitLimit) : v.duration? = .ok none ↔ i ≠ 0 := by
  have hshown : v.display = .ok (Text.ofInt i) := by
    rcases hv with rfl | rfl <;> exact integerText_of_lt hi
  have hduration : ∀ d, v ≠ duration d := by
    rintro d rfl
    rcases hv with h | h <;> cases h
  rw [duration?_of_display hduration hshown, Duration.readCluster_ofInt, Option.none_or]
  by_cases hzero : i = 0
  · subst hzero
    exact iff_of_false (by decide) (by decide)
  · exact iff_of_true (by rw [Duration.readCompact_ofInt hzero]) hzero

/-- A floating point number is a duration only if it is zero. -/
theorem duration?_float_eq_none_iff (x : Binary64) :
    (float x).duration? = .ok none ↔ x.quanta? ≠ some 0 := by
  obtain ⟨y, hread, hquanta, -⟩ := exists_readFloat?_floatText x
  rw [duration?_float, Numeral.readCluster_of_readFloat? hread, Option.none_or]
  constructor
  · intro hnone hzero
    obtain ⟨negative, quanta, h, rfl, hcount⟩ := exists_finite_of_quanta? hzero
    obtain rfl : quanta = 0 := by split at hcount <;> omega
    have htext : floatText (finite negative 0 h) = Text.ofInt 0 := floatText_zero negative
    rw [htext] at hnone
    exact absurd hnone (by decide)
  · intro hne
    rcases Numeral.readCompact_of_readFloat? hread with hnone | ⟨-, hzero⟩
    · rw [hnone]
    · exact absurd (hquanta.symm.trans hzero) hne

end Value

namespace Scalar

/-- The values without a size are those of neither kind of sizes, without the numbers that are shown
    plainly. -/
theorem byteCount?_ofScalar_read_eq_none_iff (t : Text) :
    (Value.ofScalar (read t)).byteCount? = none ↔
      ((read t).kind ≠ .integer ∧ (read t).kind ≠ .memory) ∧
        ¬ ((read t).kind = .float ∧ (Value.ofScalar (read t)).isPlainNumber) := by
  cases hread : read t with
  | integer i => simp [Value.ofScalar, Value.byteCount?, kind]
  | memory n => simp [Value.ofScalar, Value.byteCount?, kind]
  | boolean b => simp [Value.ofScalar, Value.byteCount?, kind]
  | float x => simp [Value.ofScalar, Value.byteCount?_float_eq_none_iff, kind]
  | clusterDuration d => simp [Value.ofScalar, Value.byteCount?_duration, kind]
  | duration d => simp [Value.ofScalar, Value.byteCount?_duration, kind]
  | string u =>
    rw [Value.ofScalar, Value.byteCount?_text, eq_of_read_string hread,
      readSize_of_read_string hread]
    simp [kind]

/-- The values that are no duration are those of neither kind of durations, without the zeros. -/
theorem duration?_ofScalar_read_eq_none_iff (t : Text) :
    (Value.ofScalar (read t)).duration? = .ok none ↔
      ((read t).kind ≠ .clusterDuration ∧ (read t).kind ≠ .duration) ∧
        ¬ (Value.ofScalar (read t)).IsZero := by
  have hconvertible := convertible_read t
  cases hread : read t with
  | integer i =>
    rw [hread] at hconvertible
    cases hconvertible with
    | integer hi =>
      simp [Value.ofScalar, Value.duration?_eq_none_iff_of_integer (Or.inl rfl) hi, kind,
        Value.IsZero]
  | memory n =>
    rw [hread] at hconvertible
    cases hconvertible with
    | size hn =>
      simp [Value.ofScalar, Value.duration?_eq_none_iff_of_integer (Or.inr rfl)
        (lt_pow_digitLimit hn), kind, Value.IsZero]
  | boolean b =>
    have hnone : (Value.boolean b).duration? = .ok none := by cases b <;> rfl
    simp [Value.ofScalar, hnone, kind, Value.IsZero]
  | float x => simp [Value.ofScalar, Value.duration?_float_eq_none_iff, kind, Value.IsZero]
  | clusterDuration d => simp [Value.ofScalar, Value.duration?, kind]
  | duration d => simp [Value.ofScalar, Value.duration?, kind]
  | string u =>
    rw [Value.ofScalar, Value.duration?_text, eq_of_read_string hread,
      readDuration_of_read_string hread]
    simp [kind, Value.IsZero]

/-- The zeros are of neither kind of durations. -/
theorem kind_ne_of_isZero {s : Scalar} (hzero : (Value.ofScalar s).IsZero) :
    s.kind ≠ .clusterDuration ∧ s.kind ≠ .duration := by
  cases s with
  | integer i | memory n | float x => exact ⟨nofun, nofun⟩
  | boolean b | string t | clusterDuration d | duration d => exact hzero.elim

end Scalar

end RecordFilter
