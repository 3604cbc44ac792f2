import RecordFilter.Proofs.Clause.Values
import RecordFilter.Proofs.Value.Measures

/-!
How conditions treat the spellings of one quantity.

Quantities are put in order by what they are, and are equal by how they are shown. So a text in a
record is neither less nor greater than another spelling of its quantity, but it is equal to it only
if it is the spelling in which the quantity is shown.
-/

namespace RecordFilter

namespace Scalar

variable {u : Text}

/-- The kinds of quantities that have units or a clock form. -/
def IsMeasure (s : Scalar) : Prop :=
  s.kind = .memory ∨ s.kind = .clusterDuration ∨ s.kind = .duration

theorem IsMeasure.cases {s : Scalar} (hs : s.IsMeasure) :
    (∃ n, s = memory n) ∨ ∃ d, s = clusterDuration d ∨ s = duration d := by
  cases s with
  | memory n => exact Or.inl ⟨n, rfl⟩
  | clusterDuration d => exact Or.inr ⟨d, Or.inl rfl⟩
  | duration d => exact Or.inr ⟨d, Or.inr rfl⟩
  | _ => rcases hs with h | h | h <;> cases h

/-- A text and the quantity that it is read as meet on the scale of that quantity, and neither is
    less. -/
theorem compare_of_isMeasure (hmeasure : (read u).IsMeasure) :
    ∃ c, (Value.text u).compare (.ofScalar (read u)) = .ok c ∧
      c.less = false ∧ c.greater = false := by
  rcases hmeasure.cases with ⟨n, hread⟩ | ⟨d, hread⟩
  · have hsize : (Value.text u).HasSize n := .text (readSize_of_read hread)
    rw [hread]
    exact ⟨_, hsize.compare_eq n, by simp [Comparable.less],
      by simp [Comparable.greater, Comparable.swap, Comparable.less]⟩
  · have hvalue : Value.ofScalar (read u) = .duration d := by
      rcases hread with h | h <;> rw [h, Value.ofScalar]
    rw [hvalue]
    exact ⟨_, (hasTime_of_read hread).compare_eq d, by simp [Comparable.less],
      by simp [Comparable.greater, Comparable.swap, Comparable.less]⟩

/-- A quantity is not shown as a text that has a unit. -/
theorem exists_display_of_isMeasure (hmeasure : (read u).IsMeasure) :
    ∃ shown, (Value.ofScalar (read u)).display = .ok shown ∧
      (u = shown → (read u).kind = .clusterDuration) := by
  rcases hmeasure.cases with ⟨n, hread⟩ | ⟨d, hread⟩
  · have hwritten := lt_pow_digitLimit (Quantity.natAbs_lt_of_readSize (readSize_of_read hread))
    refine ⟨Text.ofInt n, by rw [hread]; exact integerText_of_lt hwritten, ?_⟩
    rintro rfl
    rw [read_ofInt hwritten] at hread
    cases hread
  · have hvalue : Value.ofScalar (read u) = .duration d := by
      rcases hread with h | h <;> rw [h, Value.ofScalar]
    refine ⟨d.text, by rw [hvalue]; rfl, ?_⟩
    rintro rfl
    rcases hread with h | h
    · rw [h]
      rfl
    · have haccepted := readAs_kind_of_read (t := d.text) (by rw [h, kind]; decide)
      rw [h, kind] at haccepted
      obtain ⟨e, he, -⟩ := map_eq_ok_iff.mp haccepted
      have hnone := Duration.readCompact_text d
      rw [he] at hnone
      cases hnone

end Scalar

/-- A text in a field is compared with another spelling of the size or duration that it is read as.
    The conditions for equality ask whether the text is what the quantity is shown as, which only a
    clock form can be. Those for order are not met. -/
theorem Expression.holds_comparing_spellings {field t u : Text} {record : Record}
    (hlookup : record.lookup field = some (.text u)) (hsame : Scalar.read u = Scalar.read t)
    (hmeasure : (Scalar.read t).IsMeasure) :
    ∃ shown, (Value.ofScalar (Scalar.read t)).display = .ok shown ∧
      (u = shown → (Scalar.read t).kind = .clusterDuration) ∧
      (comparing field .equals t).holds record = .ok (u = shown) ∧
      (comparing field .notEquals t).holds record = .ok (u ≠ shown) ∧
      (comparing field .greaterEqual t).holds record = .ok (u = shown) ∧
      (comparing field .lessEqual t).holds record = .ok (u = shown) ∧
      (comparing field .greater t).holds record = .ok false ∧
      (comparing field .less t).holds record = .ok false := by
  rw [← hsame] at hmeasure
  obtain ⟨c, hcompare, hless, hgreater⟩ := Scalar.compare_of_isMeasure hmeasure
  obtain ⟨shown, hshown, hclock⟩ := Scalar.exists_display_of_isMeasure hmeasure
  rw [hsame] at hcompare hshown hclock
  have hequal : Operator.isEqual (.text u) (.ofScalar (Scalar.read t)) = .ok (u = shown) := by
    rw [Operator.isEqual, hshown]
    rfl
  have hnotGreater : Operator.isGreater (.text u) (.ofScalar (Scalar.read t)) = .ok false := by
    rw [Operator.isGreater, hcompare, ← hgreater]
    rfl
  have hnotLess : Operator.isLess (.text u) (.ofScalar (Scalar.read t)) = .ok false := by
    rw [Operator.isLess, hcompare, ← hless]
    rfl
  refine ⟨shown, hshown, hclock, ?_, ?_, ?_, ?_, ?_, ?_⟩ <;> rw [holds_comparing hlookup]
  · exact hequal
  · rw [Operator.holds, hequal]
    simp [Operator.negate, Except.map]
  · rw [Operator.holds, hnotGreater, hequal]
    rfl
  · rw [Operator.holds, hnotLess, hequal]
    rfl
  · exact hnotGreater
  · exact hnotLess

/-- Two and a half hours are equal to themselves in the form in which they are shown, and only so. -/
theorem Expression.holds_comparing_hours :
    let record (time : String) : Record := [("TimeUsed".toList, .text time.toList)]
    (comparing "TimeUsed".toList .greaterEqual "02:30:00".toList).holds (record "2:30:00") =
        .ok true ∧
      (comparing "TimeUsed".toList .greaterEqual "02:30:00".toList).holds (record "02:30:00") =
        .ok false := by
  intro record
  have hlookup (time : String) :
      (record time).lookup "TimeUsed".toList = some (.text time.toList) := rfl
  have hmeasure : (Scalar.read "02:30:00".toList).IsMeasure := Or.inr (Or.inl (by decide +kernel))
  have hdisplay : (Value.ofScalar (Scalar.read "02:30:00".toList)).display =
      .ok "2:30:00".toList := by
    decide +kernel
  have hsame : Scalar.read "2:30:00".toList = Scalar.read "02:30:00".toList := by decide +kernel
  constructor
  · obtain ⟨shown, hshown, -, -, -, hequal, -⟩ :=
      holds_comparing_spellings (hlookup "2:30:00") hsame hmeasure
    rw [hequal, ← Except.ok.inj (hdisplay.symm.trans hshown)]
    rfl
  · obtain ⟨shown, hshown, -, -, -, hequal, -⟩ :=
      holds_comparing_spellings (hlookup "02:30:00") rfl hmeasure
    rw [hequal, ← Except.ok.inj (hdisplay.symm.trans hshown)]
    rfl

/-- Four gigabytes in a record are not equal to four gigabytes in a condition. -/
theorem Filter.holds_of_gigabytes :
    let record : Record := [("Memory".toList, .text "4G".toList)]
    ∃ f, Filter.parse .standard "memory=4G".toList Filter.andLogic = .ok f ∧
      (Scalar.read "4G".toList).kind = .memory ∧ f.holds record = .ok false := by
  let e : Expression := .comparing "Memory".toList .equals "4G".toList
  have hparse : Filter.parse .standard "memory=4G".toList Filter.andLogic =
      .ok { expressions := [e] } := rfl
  exact ⟨_, hparse, by decide +kernel, by decide +kernel⟩

end RecordFilter
