import RecordFilter.Filter.Evaluation
import RecordFilter.Proofs.Filter.Spellings
import RecordFilter.Proofs.Value.Alike

/-!
Less, equal and greater exclude each other.

Nothing is both less and greater, and values that are equal are shown alike. So only the values that
are shown alike and are ordered anyway can be two at once, and of these there is one kind: a record
has the digits of an integer that no floating point number is equal to, and the clause the integer.
-/

namespace RecordFilter

namespace Scalar

/-- A clause is not read as a text if the text is the digits of an integer. -/
theorem not_inexactDigits_of_read {a : Value} {t shown : Text} (hshown : a.display = .ok shown) :
    ¬ Value.InexactDigits (.ofScalar (read t)) a := by
  rintro ⟨i, -, -, htext, ha⟩
  rw [Value.display_size_or_integer ha] at hshown
  obtain ⟨-, hwritten⟩ := Value.ofInt_of_integerText hshown
  cases hread : read t with
  | string s =>
    have hsame := read_eq_string_of_kind (t := t) (by rw [hread]; rfl)
    rw [hread] at htext hsame
    obtain rfl := Scalar.string.inj hsame
    rw [Value.text.inj htext, read_ofInt hwritten] at hread
    cases hread
  | _ =>
    rw [hread] at htext
    cases htext

/-- Of what a clause is read as only integers can be spelled inexactly. Sizes are read from floating
    point numbers. -/
theorem inexactDigits_read_iff {a : Value} {t : Text} :
    Value.InexactDigits a (.ofScalar (read t)) ↔
      ∃ n : Int, 0 ≤ n ∧ ¬ Binary64.Representable (n.natAbs * Binary64.scale) ∧
        a = .text (Text.ofInt n) ∧ read t = .integer n := by
  constructor
  · rintro ⟨n, hn, hexact, ha, hvalue⟩
    refine ⟨n, hn, hexact, ha, ?_⟩
    cases hread : read t with
    | integer i =>
      rw [hread] at hvalue
      rw [Value.integer.inj (hvalue.resolve_right nofun)]
    | memory bytes =>
      rw [hread] at hvalue
      rw [Value.size.inj (hvalue.resolve_left nofun)] at hread
      exact absurd (Quantity.representable_of_readSize (readSize_of_read hread)) hexact
    | _ =>
      rw [hread] at hvalue
      rcases hvalue with hvalue | hvalue <;> cases hvalue
  · rintro ⟨n, hn, hexact, ha, hread⟩
    rw [hread]
    exact ⟨n, hn, hexact, ha, Or.inl rfl⟩

end Scalar

namespace Operator

variable {a b : Value}

/-- Equality holds if the values are shown alike. -/
theorem exists_display_of_holds {e : Bool} (hequal : equals.holds a b = .ok e) :
    ∃ s t, a.display = .ok s ∧ b.display = .ok t ∧ e = decide (s = t) := by
  obtain ⟨s, hs, hequal⟩ := bind_eq_ok_iff.mp hequal
  obtain ⟨t, ht, hequal⟩ := bind_eq_ok_iff.mp hequal
  exact ⟨s, t, hs, ht, (Except.ok.inj hequal).symm⟩

/-- Both orders are decided on one scale. -/
theorem exists_compare_of_holds {g l : Bool} (hgreater : greater.holds a b = .ok g)
    (hless : less.holds a b = .ok l) :
    ∃ c, a.compare b = .ok c ∧ c.greater = g ∧ c.less = l := by
  obtain ⟨c, hc, hg⟩ := map_eq_ok_iff.mp hgreater
  obtain ⟨d, hd, hl⟩ := map_eq_ok_iff.mp hless
  rw [hc] at hd
  obtain rfl := Except.ok.inj hd
  exact ⟨c, hc, hg, hl⟩

/-- If there are answers, the value of a record is at most one of equal to, greater than and less than
    that of a clause. The exception is a record with the digits of a natural number that no floating
    point number is equal to, and a clause with that number. -/
theorem holds_at_most_once_iff {t : Text} {e g l : Bool}
    (hequal : equals.holds a (.ofScalar (Scalar.read t)) = .ok e)
    (hgreater : greater.holds a (.ofScalar (Scalar.read t)) = .ok g)
    (hless : less.holds a (.ofScalar (Scalar.read t)) = .ok l) :
    [e, g, l].count true ≤ 1 ↔
      ¬ ∃ n : Int, 0 ≤ n ∧ ¬ Binary64.Representable (n.natAbs * Binary64.scale) ∧
        a = .text (Text.ofInt n) ∧ Scalar.read t = .integer n := by
  rw [← Scalar.inexactDigits_read_iff]
  obtain ⟨s, shown, hs, hshown, rfl⟩ := exists_display_of_holds hequal
  obtain ⟨c, hcompare, rfl, rfl⟩ := exists_compare_of_holds hgreater hless
  have hexclusive := c.not_less_and_greater
  by_cases hdigits : Value.InexactDigits a (.ofScalar (Scalar.read t))
  · have hsame : s = shown := by
      obtain ⟨n, -, -, rfl, hn⟩ := hdigits
      rw [Value.display_size_or_integer hn] at hshown
      obtain ⟨rfl, -⟩ := Value.ofInt_of_integerText hshown
      exact (Except.ok.inj hs).symm
    have htwice : 1 < [true, c.greater, c.less].count true := by
      rcases hdigits.less_or_greater hcompare with hless | hgreater
      · rw [hless]
        cases c.greater <;> decide
      · rw [hgreater]
        cases c.less <;> decide
    rw [decide_eq_true hsame]
    exact iff_of_false (Nat.not_le.mpr htwice) (not_not.mpr hdigits)
  · refine iff_of_true ?_ hdigits
    by_cases hsame : s = shown
    · subst hsame
      obtain ⟨hless, hgreater⟩ := Value.not_less_of_display hs hshown hdigits
        (Scalar.not_inexactDigits_of_read hs) hcompare
      rw [hless, hgreater, decide_eq_true rfl]
      decide
    · rw [decide_eq_false hsame]
      cases hl : c.less <;> cases hg : c.greater
      · decide
      · decide
      · decide
      · exact absurd ⟨hl, hg⟩ hexclusive

/-- The digits of `2 ^ 53 + 1` are equal to that number, and less than it. -/
theorem holds_twice_of_long_digits :
    let a : Value := .text "9007199254740993".toList
    let b := Scalar.read "9007199254740993".toList
    equals.holds a (.ofScalar b) = .ok true ∧ greater.holds a (.ofScalar b) = .ok false ∧
      less.holds a (.ofScalar b) = .ok true ∧
      ∃ n : Int, 0 ≤ n ∧ ¬ Binary64.Representable (n.natAbs * Binary64.scale) ∧
        a = .text (Text.ofInt n) ∧ b = .integer n := by
  intro a b
  have hequal : equals.holds a (.ofScalar b) = .ok true := by decide +kernel
  have hgreater : greater.holds a (.ofScalar b) = .ok false := by decide +kernel
  have hless : less.holds a (.ofScalar b) = .ok true := by decide +kernel
  have htwice : ¬ [true, false, true].count true ≤ 1 := by decide
  rw [holds_at_most_once_iff hequal hgreater hless, not_not] at htwice
  exact ⟨hequal, hgreater, hless, htwice⟩

end Operator

end RecordFilter
