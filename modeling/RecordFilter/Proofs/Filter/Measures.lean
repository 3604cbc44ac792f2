import RecordFilter.Filter.Evaluation
import RecordFilter.Proofs.Clause.Reading
import RecordFilter.Proofs.Value.Measures

/-!
Memory sizes and durations in conditions.

A size in a condition is compared with what is a size in a record, and a duration with what is a
duration, by how much they are and in whatever form they are written. Durations are equal only if
they are the same, since different ones have different texts.
-/

namespace RecordFilter

/-- A condition on the order of sizes or of durations is met as they are ordered, in whatever form the
    record has them. -/
theorem Expression.holds_comparing_measures {field t : Text} {record : Record} {x : Value}
    (hlookup : record.lookup field = some x) :
    let greater := (comparing field .greater t).holds record
    let less := (comparing field .less t).holds record
    (∀ m n, x.HasSize m → Scalar.read t = .memory n →
        greater = .ok (n < m) ∧ less = .ok (m < n)) ∧
      ∀ c d, x.HasTime c → Scalar.read t = .clusterDuration d ∨ Scalar.read t = .duration d →
        greater = .ok (d.micros < c.micros) ∧ less = .ok (c.micros < d.micros) := by
  intro greater less
  have hgreater : greater = (x.compare (.ofScalar (Scalar.read t))).map Comparable.greater :=
    holds_comparing hlookup
  have hless : less = (x.compare (.ofScalar (Scalar.read t))).map Comparable.less :=
    holds_comparing hlookup
  rw [hgreater, hless]
  constructor
  · intro m n hsize hread
    rw [hread, Value.ofScalar, hsize.compare_eq]
    exact ⟨rfl, rfl⟩
  · intro c d htime hread
    have hvalue : Value.ofScalar (Scalar.read t) = .duration d := by
      rcases hread with h | h <;> rw [h, Value.ofScalar]
    rw [hvalue, htime.compare_eq]
    exact ⟨rfl, rfl⟩

/-- Thirty minutes in a record are more than a mebibyte, and less than an hour. -/
theorem Expression.holds_comparing_minutes :
    let record : Record := [("Used".toList, .text "30m".toList)]
    (comparing "Used".toList .greater "1M".toList).holds record = .ok true ∧
      (comparing "Used".toList .less "1:00:00".toList).holds record = .ok true := by
  intro record
  have hlookup : record.lookup "Used".toList = some (.text "30m".toList) := rfl
  have hsize : (Value.text "30m".toList).HasSize 31457280 :=
    .text (toOption_eq_some_iff.mp (by decide +kernel))
  have htime : (Value.text "30m".toList).HasTime ⟨1800000000, by decide⟩ :=
    .compact (toOption_eq_some_iff.mp (by decide +kernel))
  have hmebibyte : Scalar.read "1M".toList = .memory 1048576 := by decide +kernel
  have hhour : Scalar.read "1:00:00".toList = .clusterDuration ⟨3600000000, by decide⟩ := by
    decide +kernel
  exact ⟨((holds_comparing_measures hlookup).1 _ _ hsize hmebibyte).1,
    ((holds_comparing_measures hlookup).2 _ _ htime (Or.inl hhour)).2⟩

/-- A duration is read back from its text if it is of whole seconds and not negative. Otherwise its
    text is not read as a clock form at all. Durations are equal as values only if they are the same,
    as their texts are. -/
theorem Duration.readCluster_text_and_holds_equals (d : Duration) :
    (if 0 ≤ d.micros ∧ d.micros % 1000000 = 0 then readCluster d.text = .ok d
      else ∃ fault, readCluster d.text = .error fault) ∧
      ∀ e : Duration, (d.text = e.text ↔ d = e) ∧
        Operator.equals.holds (.duration d) (.duration e) = .ok (d = e) := by
  constructor
  · split
    · rename_i hwhole
      exact readCluster_text ⟨hwhole.1, hwhole.2⟩
    · rename_i hnot
      cases hread : readCluster d.text with
      | ok e =>
        obtain ⟨hnonneg, hseconds⟩ := (eq_of_readCluster_text hread).1
        exact absurd ⟨hnonneg, hseconds⟩ hnot
      | error fault => exact ⟨fault, rfl⟩
  · intro e
    have htext : d.text = e.text ↔ d = e := ⟨text_injective, congrArg text⟩
    have hequal : Operator.equals.holds (.duration d) (.duration e) = .ok (d.text = e.text) := rfl
    exact ⟨htext, by rw [hequal, decide_eq_decide.mpr htext]⟩

end RecordFilter
