import RecordFilter.Filter.Evaluation
import RecordFilter.Proofs.Value.Ordering

/-!
Values that are the same, and what tells them apart: nothing but the sign of a zero, among the values
that clauses are read with.

A value is settled by dropping that sign (`Value.settled`). No operator asks for it, since both zeros
are shown in one way and are ordered alike.
-/

namespace RecordFilter

namespace Binary64

variable {x y : Binary64}

/-- The number with one zero for both. -/
def settled : Binary64 → Binary64
  | finite _ 0 _ => zero false
  | x => x

theorem settled_finite (negative : Bool) {quanta : Nat} (h : Representable quanta) :
    settled (finite negative quanta h) =
      if quanta = 0 then zero false else finite negative quanta h := by
  cases quanta with
  | zero => rfl
  | succ n => rfl

theorem settled_cases (x : Binary64) :
    (∃ negative, x = zero negative ∧ x.settled = zero false) ∨ x.settled = x := by
  cases x with
  | finite negative quanta h =>
    cases quanta with
    | zero => exact .inl ⟨negative, rfl, rfl⟩
    | succ n => exact .inr rfl
  | infinite negative => exact .inr rfl
  | nan => exact .inr rfl

theorem less_settled_right (x y : Binary64) : x.less y.settled = x.less y := by
  obtain ⟨negative, rfl, hsettled⟩ | hsettled := y.settled_cases
  · rw [hsettled]
    cases x <;> cases negative <;> rfl
  · rw [hsettled]

theorem less_settled_left (x y : Binary64) : x.settled.less y = x.less y := by
  obtain ⟨negative, rfl, hsettled⟩ | hsettled := x.settled_cases
  · rw [hsettled]
    cases y <;> cases negative <;> rfl
  · rw [hsettled]

theorem floatText_zero (negative : Bool) : Value.floatText (zero negative) = Text.ofInt 0 := by
  have hwhole : (zero negative).toInt? = some 0 := by
    rw [zero, toInt?, if_pos (Nat.zero_mod scale), Nat.zero_div]
    cases negative <;> rfl
  have hshort : (0 : Int).natAbs < Value.wholeLimit := by decide
  simp only [Value.floatText, hwhole, if_pos hshort]

theorem floatText_settled (x : Binary64) : Value.floatText x.settled = Value.floatText x := by
  obtain ⟨negative, rfl, hsettled⟩ | hsettled := x.settled_cases
  · rw [hsettled, floatText_zero, floatText_zero]
  · rw [hsettled]

theorem settled_eq_of_finite {s t : Bool} {a b : Nat} {ha : Representable a} {hb : Representable b}
    (hcount : (if s then -(a : Int) else a) = if t then -(b : Int) else b) :
    settled (finite s a ha) = settled (finite t b hb) := by
  obtain rfl : a = b := by
    split at hcount <;> split at hcount <;> omega
  rw [settled_finite, settled_finite]
  split_ifs with hzero
  · rfl
  · cases s <;> cases t <;> first | rfl | exact absurd hcount (by simp; omega)

end Binary64

namespace Value

variable {a b : Value}

/-- The value with one zero for both. -/
def settled : Value → Value
  | float x => float x.settled
  | v => v

theorem settled_cases (v : Value) : (∃ x, v = float x) ∨ v.settled = v := by
  cases v with
  | float x => exact .inl ⟨x, rfl⟩
  | _ => exact .inr rfl

@[simp] theorem display_settled (v : Value) : v.settled.display = v.display := by
  obtain ⟨x, rfl⟩ | hsettled := v.settled_cases
  · exact congrArg Except.ok x.floatText_settled
  · rw [hsettled]

@[simp] theorem texts?_settled (v : Value) : v.settled.texts? = v.texts? := by
  obtain ⟨x, rfl⟩ | hsettled := v.settled_cases
  · rfl
  · rw [hsettled]

theorem byteCount?_float (x : Binary64) :
    (float x).byteCount? = (Quantity.readSize (floatText x)).toOption :=
  rfl

theorem duration?_float (x : Binary64) : (float x).duration? =
    .ok ((Duration.readCluster (floatText x)).toOption.or
      (Duration.readCompact (floatText x)).toOption) :=
  rfl

@[simp] theorem byteCount?_settled (v : Value) : v.settled.byteCount? = v.byteCount? := by
  obtain ⟨x, rfl⟩ | hsettled := v.settled_cases
  · rw [settled, byteCount?_float, byteCount?_float, Binary64.floatText_settled]
  · rw [hsettled]

@[simp] theorem duration?_settled (v : Value) : v.settled.duration? = v.duration? := by
  obtain ⟨x, rfl⟩ | hsettled := v.settled_cases
  · rw [settled, duration?_float, duration?_float, Binary64.floatText_settled]
  · rw [hsettled]

/-- An order is not affected by the sign of a zero on its right, if it is not on the scale of
    numbers. -/
theorem map_compare_settled {order : Comparable → Bool}
    (horder : ∀ x y, order (.numbers x y.settled) = order (.numbers x y)) (a b : Value) :
    (a.compare b.settled).map order = (a.compare b).map order := by
  obtain ⟨y, rfl⟩ | hsettled := b.settled_cases
  · have hsizes : sizes? a (float y).settled = sizes? a (float y) := by
      rw [sizes?, sizes?, byteCount?_settled]
    have hdurations : durations? a (float y).settled = durations? a (float y) := by
      rw [durations?, durations?, duration?_settled]
    have hnumbers : (numbers? a (float y).settled).map (Option.map order) =
        (numbers? a (float y)).map (Option.map order) := by
      rw [numbers?, numbers?]
      cases a.number? with
      | error fault => rfl
      | ok found =>
        cases found with
        | none => rfl
        | some x => exact congrArg (Except.ok ∘ some) (horder x y)
    rw [compare, compare, hsizes, hdurations, display_settled]
    cases sizes? a (float y) with
    | some c => rfl
    | none =>
      rcases durations? a (float y) with fault | _ | c
      · rfl
      · generalize numbers? a (float y).settled = first at hnumbers ⊢
        generalize numbers? a (float y) = second at hnumbers ⊢
        rcases first with fault | _ | c <;> rcases second with fault' | _ | c' <;>
          simp only [Except.map, Option.map, reduceCtorEq, Except.error.injEq, Except.ok.injEq,
            Option.some.injEq] at hnumbers
        · rw [hnumbers]
        · rfl
        · exact congrArg Except.ok hnumbers
      · rfl
  · rw [hsettled]

end Value

namespace Value

open Binary64

theorem magnitude?_finite (negative : Bool) {quanta : Nat} (h : Representable quanta) :
    (float (.finite negative quanta h)).magnitude? =
      some (.finite (if negative then -(quanta : Int) else quanta)) :=
  rfl

theorem magnitude?_settled (x : Binary64) :
    (float x.settled).magnitude? = (float x).magnitude? := by
  obtain ⟨negative, rfl, hsettled⟩ | hsettled := x.settled_cases
  · rw [hsettled]
    cases negative <;> rfl
  · rw [hsettled]

/-- Two floating point numbers have one value exactly if they differ in no more than the sign of a
    zero. -/
theorem magnitude?_float_eq_iff {x y : Binary64} :
    (float x).magnitude? = (float y).magnitude? ↔ x.settled = y.settled := by
  constructor
  · intro hsame
    cases x with
    | finite s a ha =>
      cases y with
      | finite t b hb =>
        rw [magnitude?_finite, magnitude?_finite, Option.some.injEq, Magnitude.finite.injEq] at hsame
        exact settled_eq_of_finite hsame
      | infinite t => cases hsame
      | nan => cases hsame
    | infinite s =>
      cases y with
      | finite t b hb => cases hsame
      | infinite t =>
        obtain rfl := Magnitude.infinite.inj (Option.some.inj hsame)
        rfl
      | nan => cases hsame
    | nan =>
      cases y with
      | finite t b hb => cases hsame
      | infinite t => cases hsame
      | nan => rfl
  · intro hsame
    rw [← magnitude?_settled x, hsame, magnitude?_settled]

end Value

namespace Operator

/-- No operator tells the zeros in the value of a clause from each other. -/
theorem holds_settled (op : Operator) (a b : Value) : op.holds a b.settled = op.holds a b := by
  have hequal : isEqual a b.settled = isEqual a b := by
    rw [isEqual, isEqual, Value.display_settled]
  have hincludes : includes a b.settled = includes a b := by
    rw [includes, includes, Value.display_settled]
  have hgreater : isGreater a b.settled = isGreater a b :=
    Value.map_compare_settled (fun x y => y.less_settled_left x) a b
  have hless : isLess a b.settled = isLess a b :=
    Value.map_compare_settled (fun x y => x.less_settled_right y) a b
  have hfits : fits a b.settled = fits a b := by
    rw [fits, fits, patternOf, patternOf, Value.display_settled]
  have hmember : isMember a b.settled = isMember a b := by
    rw [isMember, isMember, Value.texts?_settled]
  cases op <;> simp only [holds, hequal, hincludes, hgreater, hless, hfits, hmember]

end Operator

end RecordFilter
