import RecordFilter.Proofs.Filter.Exclusion

/-!
Less and greater are one order, seen from either side.

Which scale two values are compared on does not depend on which of them comes first
(`Value.compare_swap`), as long as both ways there is an answer. So a value is greater than another
one if that is less, and it is at least and at most the other one if the two are equal.
-/

namespace RecordFilter

namespace Value

variable {a b : Value}

/-- Values are both durations or they are not, whichever of them is asked first. -/
theorem durations?_swap {found other : Option Comparable} (hab : durations? a b = .ok found)
    (hba : durations? b a = .ok other) : other = found.map Comparable.swap := by
  obtain ⟨x, hx, -⟩ := bind_eq_ok_iff.mp hab
  obtain ⟨y, hy, -⟩ := bind_eq_ok_iff.mp hba
  rw [durations?, hx, hy] at hab
  rw [durations?, hy, hx] at hba
  cases x <;> cases y <;> cases hab <;> cases hba <;> rfl

/-- Values are both numbers or they are not, whichever of them is asked first. -/
theorem numbers?_swap {found other : Option Comparable} (hab : numbers? a b = .ok found)
    (hba : numbers? b a = .ok other) : other = found.map Comparable.swap := by
  obtain ⟨x, hx, -⟩ := bind_eq_ok_iff.mp hab
  obtain ⟨y, hy, -⟩ := bind_eq_ok_iff.mp hba
  rw [numbers?, hx, hy] at hab
  rw [numbers?, hy, hx] at hba
  cases x <;> cases y <;> cases hab <;> cases hba <;> rfl

theorem sizes?_swap (a b : Value) : sizes? b a = (sizes? a b).map Comparable.swap := by
  rw [sizes?, sizes?]
  cases a.byteCount? <;> cases b.byteCount? <;> rfl

/-- Two values are compared on one scale from either side. -/
theorem compare_swap {c d : Comparable} (hab : a.compare b = .ok c) (hba : b.compare a = .ok d) :
    d = c.swap := by
  have hsizes := sizes?_swap a b
  rcases compare_scale hab with hc | ⟨hnone, hab⟩
  · rw [hc] at hsizes
    rcases compare_scale hba with hd | ⟨hother, -⟩
    · exact Option.some.inj (hd.symm.trans hsizes)
    · cases hother.symm.trans hsizes
  rw [hnone] at hsizes
  rcases compare_scale hba with hd | ⟨-, hba⟩
  · cases hd.symm.trans hsizes
  rcases hab with hc | ⟨hnone, hab⟩ <;> rcases hba with hd | ⟨hother, hba⟩
  · exact Option.some.inj (durations?_swap hc hd)
  · cases durations?_swap hc hother
  · cases durations?_swap hnone hd
  rcases hab with hc | ⟨hnone, s, t, hs, ht, rfl⟩ <;>
    rcases hba with hd | ⟨hother, t', s', ht', hs', rfl⟩
  · exact Option.some.inj (numbers?_swap hc hd)
  · cases numbers?_swap hc hother
  · cases numbers?_swap hnone hd
  · obtain rfl := Except.ok.inj (hs.symm.trans hs')
    obtain rfl := Except.ok.inj (ht.symm.trans ht')
    rfl

end Value

namespace Operator

/-- The answer to two questions is yes if that to one of them is. -/
theorem exists_of_orElse_eq_ok {first second : Answer} {answer other : Bool}
    (hor : orElse first second = .ok answer) (hsecond : second = .ok other) :
    ∃ yes, first = .ok yes ∧ answer = (yes || other) := by
  obtain ⟨yes, hyes, hor⟩ := bind_eq_ok_iff.mp hor
  refine ⟨yes, hyes, ?_⟩
  cases yes with
  | true => exact (Except.ok.inj hor).symm
  | false => exact Except.ok.inj (hor.symm.trans hsecond)

/-- If there are answers, one value is greater than another if that is less than the first, no value
    is both less and greater, and one that is at least and at most another is equal to it. -/
theorem ordered_operators_cohere (a b : Value) :
    (∀ g l, greater.holds a b = .ok g → less.holds b a = .ok l → g = l) ∧
      (∀ g l, greater.holds a b = .ok g → less.holds a b = .ok l → ¬ (g = true ∧ l = true)) ∧
      ∀ ge le e, greaterEqual.holds a b = .ok ge → lessEqual.holds a b = .ok le →
        equals.holds a b = .ok e → (ge = true ∧ le = true ↔ e = true) := by
  have hexclusive (g l : Bool) (hgreater : greater.holds a b = .ok g)
      (hless : less.holds a b = .ok l) : ¬ (g = true ∧ l = true) := by
    obtain ⟨c, -, rfl, rfl⟩ := exists_compare_of_holds hgreater hless
    exact fun hboth => c.not_less_and_greater hboth.symm
  refine ⟨fun g l hgreater hless => ?_, hexclusive, fun ge le e hge hle hequal => ?_⟩
  · obtain ⟨c, hc, rfl⟩ := map_eq_ok_iff.mp hgreater
    obtain ⟨d, hd, rfl⟩ := map_eq_ok_iff.mp hless
    rw [Value.compare_swap hc hd, Comparable.greater]
  · obtain ⟨g, hgreater, rfl⟩ := exists_of_orElse_eq_ok hge hequal
    obtain ⟨l, hless, rfl⟩ := exists_of_orElse_eq_ok hle hequal
    have hnot := hexclusive g l hgreater hless
    cases e with
    | true => simp
    | false => simpa using hnot

/-- An hour is more than thirty minutes, which are less than an hour. An undefined number is at least
    and at most the text that it is shown as, and equal to it. -/
theorem holds_of_hour_and_undefined :
    let hour : Value := .text "1h".toList
    let minutes : Value := .duration ⟨1800000000, by decide⟩
    let undefined : Value := .float .nan
    let name : Value := .text "nan".toList
    greater.holds hour minutes = .ok true ∧ less.holds minutes hour = .ok true ∧
      less.holds hour minutes = .ok false ∧ greaterEqual.holds undefined name = .ok true ∧
      lessEqual.holds undefined name = .ok true ∧ equals.holds undefined name = .ok true := by
  intro hour minutes undefined name
  have hgreater : greater.holds hour minutes = .ok true := by decide +kernel
  obtain ⟨swapped, hswapped⟩ : ∃ l, less.holds minutes hour = .ok l := ⟨true, by decide +kernel⟩
  obtain ⟨l, hless⟩ : ∃ l, less.holds hour minutes = .ok l := ⟨false, by decide +kernel⟩
  have hge : greaterEqual.holds undefined name = .ok true := by decide +kernel
  have hle : lessEqual.holds undefined name = .ok true := by decide +kernel
  obtain ⟨e, hequal⟩ : ∃ e, equals.holds undefined name = .ok e := ⟨true, by decide +kernel⟩
  obtain rfl := (ordered_operators_cohere hour minutes).1 _ _ hgreater hswapped
  obtain rfl := ((ordered_operators_cohere undefined name).2.2 _ _ _ hge hle hequal).mp ⟨rfl, rfl⟩
  have hnot := (ordered_operators_cohere hour minutes).2.1 _ _ hgreater hless
  rw [Bool.eq_false_iff.mpr fun hl => hnot ⟨rfl, hl⟩] at hless
  exact ⟨hgreater, hswapped, hless, hge, hle, hequal⟩

end Operator

end RecordFilter
