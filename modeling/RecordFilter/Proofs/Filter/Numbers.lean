import RecordFilter.Filter.Basic
import RecordFilter.Proofs.Clause.Reading
import RecordFilter.Proofs.Value.Numbers

/-!
How conditions order numbers.
-/

namespace RecordFilter

open Binary64 (scale nearest)

/-- A number in a field and a number in a condition are put in order by their whole parts if both are
    written plainly. Otherwise they are put in order as floating point numbers, unless one is beyond
    their range. Rounding can make two numbers equal, but no condition is met against their order. -/
theorem Expression.holds_comparing_numbers {field t : Text} {record : Record} {x : Value} {q r : Int}
    (hlookup : record.lookup field = some x) (hx : x.quanta? = some q)
    (ht : (Value.ofScalar (Scalar.read t)).quanta? = some r) :
    let y := Value.ofScalar (Scalar.read t)
    let greater := (comparing field .greater t).holds record
    let less := (comparing field .less t).holds record
    (x.isPlainNumber ∧ y.isPlainNumber →
        greater = .ok (r.tdiv scale < q.tdiv scale) ∧
          less = .ok (q.tdiv scale < r.tdiv scale)) ∧
      (¬ (x.isPlainNumber ∧ y.isPlainNumber) → ¬ x.IsHuge → ¬ y.IsHuge →
        greater = .ok (nearest r < nearest q) ∧ less = .ok (nearest q < nearest r)) ∧
      (greater = .ok true → r < q) ∧ (less = .ok true → q < r) := by
  intro y greater less
  have hgreater : greater = (x.compare y).map Comparable.greater := holds_comparing hlookup
  have hless : less = (x.compare y).map Comparable.less := holds_comparing hlookup
  rw [hgreater, hless]
  refine ⟨fun hplain => ?_, fun hplain hfirst hsecond => ?_, fun hyes => ?_, fun hyes => ?_⟩
  · rw [Value.compare_of_isPlainNumber hx ht hplain]
    exact ⟨rfl, rfl⟩
  · obtain ⟨c, hc, hcless, hcgreater⟩ :=
      Value.compare_of_not_isPlainNumber hx ht hplain hfirst hsecond
    rw [hc, ← hcless, ← hcgreater]
    exact ⟨rfl, rfl⟩
  · obtain ⟨c, hc, hcgreater⟩ := map_eq_ok_iff.mp hyes
    exact (Value.lt_of_compare hx ht hc).2 hcgreater
  · obtain ⟨c, hc, hcless⟩ := map_eq_ok_iff.mp hyes
    exact (Value.lt_of_compare hx ht hc).1 hcless

/-- A negative number is less than one, and two is more, as numbers and as whole parts. -/
theorem Expression.holds_comparing_loads :
    let record (load : String) : Record := [("Load".toList, .text load.toList)]
    (comparing "Load".toList .less "1".toList).holds (record "-9.5") = .ok true ∧
      (comparing "Load".toList .greater "1".toList).holds (record "2.5") = .ok true := by
  intro record
  have hlookup (load : String) :
      (record load).lookup "Load".toList = some (.text load.toList) := rfl
  have hone : Scalar.read "1".toList = .integer 1 := by decide +kernel
  have hquanta : (Value.ofScalar (Scalar.read "1".toList)).quanta? = some (scale : Int) := by
    decide +kernel
  constructor
  · have hload : (Value.text "-9.5".toList).quanta? = some (-((19 * scale / 2 : Nat) : Int)) := by
      decide +kernel
    have hplain : ¬ ((Value.text "-9.5".toList).isPlainNumber ∧
        (Value.ofScalar (Scalar.read "1".toList)).isPlainNumber) := by
      decide +kernel
    have hrange : ¬ (Value.ofScalar (Scalar.read "1".toList)).IsHuge := by
      rw [hone]
      rintro ⟨hhuge⟩
      exact absurd hhuge (by decide +kernel)
    obtain ⟨-, hrounded, -⟩ := holds_comparing_numbers (hlookup "-9.5") hload hquanta
    rw [(hrounded hplain nofun hrange).2]
    decide +kernel
  · have hload : (Value.text "2.5".toList).quanta? = some ((5 * scale / 2 : Nat) : Int) := by
      decide +kernel
    have hplain : (Value.text "2.5".toList).isPlainNumber ∧
        (Value.ofScalar (Scalar.read "1".toList)).isPlainNumber := by
      decide +kernel
    obtain ⟨hwhole, -⟩ := holds_comparing_numbers (hlookup "2.5") hload hquanta
    rw [(hwhole hplain).1]
    decide +kernel

/-- One and a half is greater than one, and yet a condition that asks for more than one is not met. -/
theorem Filter.holds_of_fraction :
    let record : Record := [("Load".toList, .text "1.5".toList)]
    ∃ f q r, Filter.parse .standard "load>1".toList Filter.andLogic = .ok f ∧
      (Value.text "1.5".toList).quanta? = some q ∧
      (Value.ofScalar (Scalar.read "1".toList)).quanta? = some r ∧
      r < q ∧ f.holds record = .ok false := by
  let e : Expression := .comparing "Load".toList .greater "1".toList
  have hparse : Filter.parse .standard "load>1".toList Filter.andLogic =
      .ok { expressions := [e] } := rfl
  exact ⟨_, (3 * scale / 2 : Nat), scale, hparse, by decide +kernel, by decide +kernel,
    by decide +kernel, by decide +kernel⟩

end RecordFilter
