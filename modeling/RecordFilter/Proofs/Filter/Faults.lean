import RecordFilter.Filter.Evaluation
import RecordFilter.Proofs.Clause.Values
import RecordFilter.Proofs.Filter.Combination
import RecordFilter.Proofs.Filter.Selection
import RecordFilter.Proofs.Outcome
import RecordFilter.Proofs.Value.Ordering

/-!
Which filters have no answer on which records.

On plain data, an order has no answer where an integer is beyond the range of floating point
numbers. A pattern has none if its text cannot be read for another reason than that it is malformed,
or if a group of it is crossed. And no operator has an answer on a value that is nested too deeply,
if it comes to look at the text of it.
-/

namespace RecordFilter

/-- The fault of a text that is no pattern, unless it is only malformed. -/
def Pattern.PatternError.fault? : PatternError → Option Fault
  | .malformed .. => none
  | .repeatTooLarge => some .repeatTooLarge
  | .tooManyDigits => some .tooManyDigits
  | .scriptConflict => some .scriptConflict
  | .nestedTooDeeply => some .nestedTooDeeply

namespace Operator

/-- The text of the value is no pattern, and that is not taken for a pattern that nothing meets. -/
def PatternFails (value : Value) (fault : Fault) : Prop :=
  ∃ shown e, value.display = .ok shown ∧ Pattern.read shown = .error e ∧ e.fault? = some fault

/-- The operator looks at the text of the value of a record, given the value of the clause. -/
def AsksText (op : Operator) (b : Value) : Prop :=
  match op with
  | pattern => ∃ p, patternOf b = .ok (some p)
  | isIn | notIn => ∃ texts, b.texts? = some texts
  | _ => True

/-- The ways in which an operator has no answer on a value of a record and one of a clause. -/
inductive Fails : Operator → Value → Value → Fault → Prop
  | overflow {op : Operator} {a b : Value} (hop : op.isOrdered) (hover : a.Overflows b) :
      Fails op a b .numberTooLarge
  | nesting {op : Operator} {a b : Value} (hasks : op.AsksText b) (hdeep : a.TooDeep) :
      Fails op a b .nestedTooDeeply
  | reading {a b : Value} {fault : Fault} (hpattern : PatternFails b fault) :
      Fails .pattern a b fault
  | crossing {a b : Value} {p : Pattern} {t : Text} (hpattern : patternOf b = .ok (some p))
      (htext : a.display = .ok t) (hsearch : p.search t = .crossedGroup) :
      Fails .pattern a b .crossedGroup

variable {a b : Value} {fault : Fault}

theorem patternOf_eq_error_iff (hb : b.Writable) :
    patternOf b = .error fault ↔ PatternFails b fault := by
  obtain ⟨shown, hshown⟩ := hb.exists_display
  have hfails : PatternFails b fault ↔
      ∃ e, Pattern.read shown = .error e ∧ e.fault? = some fault := by
    constructor
    · rintro ⟨t, e, ht, hread, hfault⟩
      rw [hshown] at ht
      rw [← Except.ok.inj ht] at hread
      exact ⟨e, hread, hfault⟩
    · rintro ⟨e, hread, hfault⟩
      exact ⟨shown, e, hshown, hread, hfault⟩
  rw [hfails]
  simp only [patternOf, hshown, bind, Except.bind]
  cases Pattern.read shown with
  | ok p => simp [pure, Except.pure]
  | error e => cases e <;> simp [Pattern.PatternError.fault?, pure, Except.pure, throw, throwThe, MonadExceptOf.throw]

theorem fails_iff_of_isOrdered {op : Operator} (ha : a.Writable) (hop : op.isOrdered) :
    op.Fails a b fault ↔ fault = .numberTooLarge ∧ a.Overflows b := by
  constructor
  · intro hfails
    cases hfails with
    | overflow _ hover => exact ⟨rfl, hover⟩
    | nesting _ hdeep => exact absurd hdeep ha.shallow
    | reading _ => cases hop
    | crossing _ _ _ => cases hop
  · rintro ⟨rfl, hover⟩
    exact .overflow hop hover

/-- An operator that neither compares by order nor by a pattern has an answer. -/
theorem not_fails {op : Operator} (ha : a.Writable) (hop : ¬ op.isOrdered)
    (hpattern : op ≠ .pattern) : ¬ op.Fails a b fault := by
  intro hfails
  cases hfails with
  | overflow hordered _ => exact hop hordered
  | nesting _ hdeep => exact ha.shallow hdeep
  | reading _ => exact hpattern rfl
  | crossing _ _ _ => exact hpattern rfl

theorem exists_isEqual (ha : a.Writable) (hb : b.Writable) : ∃ answer, isEqual a b = .ok answer := by
  obtain ⟨s, hs⟩ := ha.exists_display
  obtain ⟨t, ht⟩ := hb.exists_display
  exact ⟨_, by rw [isEqual, hs, ht]; rfl⟩

theorem exists_includes (ha : a.Writable) (hb : b.Writable) :
    ∃ answer, includes a b = .ok answer := by
  obtain ⟨s, hs⟩ := ha.exists_display
  obtain ⟨t, ht⟩ := hb.exists_display
  exact ⟨_, by rw [includes, hs, ht]; rfl⟩

theorem exists_isMember (ha : a.Writable) : ∃ answer, isMember a b = .ok answer := by
  obtain ⟨s, hs⟩ := ha.exists_display
  rw [isMember, hs]
  cases b.texts? with
  | none => exact ⟨_, rfl⟩
  | some texts => exact ⟨_, rfl⟩

theorem found_eq_error_iff {p : Pattern} {t : Text} (ht : a.display = .ok t) :
    found p a = .error fault ↔ fault = .crossedGroup ∧ p.search t = .crossedGroup := by
  rw [found, ht]
  simp only [bind, Except.bind]
  cases p.search t <;> simp [pure, Except.pure, throw, throwThe, MonadExceptOf.throw, eq_comm]

theorem fails_pattern_iff (ha : a.Writable) : Fails .pattern a b fault ↔
    PatternFails b fault ∨ ∃ p t, patternOf b = .ok (some p) ∧ a.display = .ok t ∧
      fault = .crossedGroup ∧ p.search t = .crossedGroup := by
  constructor
  · intro hfails
    cases hfails with
    | overflow hop _ => cases hop
    | nesting _ hdeep => exact absurd hdeep ha.shallow
    | reading h => exact Or.inl h
    | crossing hpattern htext hsearch => exact Or.inr ⟨_, _, hpattern, htext, rfl, hsearch⟩
  · rintro (h | ⟨p, t, hpattern, htext, rfl, hsearch⟩)
    · exact .reading h
    · exact .crossing hpattern htext hsearch

theorem fits_eq_error_iff (ha : a.Writable) (hb : b.Writable) :
    fits a b = .error fault ↔ Fails .pattern a b fault := by
  obtain ⟨t, ht⟩ := ha.exists_display
  rw [fails_pattern_iff ha, ← patternOf_eq_error_iff hb, fits, bind_eq_error_iff]
  refine or_congr_right ⟨?_, ?_⟩
  · rintro ⟨read, hread, herror⟩
    cases read with
    | none => cases herror
    | some p => exact ⟨p, t, hread, ht, (found_eq_error_iff ht).mp herror⟩
  · rintro ⟨p, s, hread, hs, hfault⟩
    exact ⟨some p, hread, (found_eq_error_iff hs).mpr hfault⟩

private theorem exists_negate {x : Answer} (hx : ∃ answer, x = .ok answer) :
    ∃ answer, negate x = .ok answer := by
  obtain ⟨answer, rfl⟩ := hx
  exact ⟨!answer, rfl⟩

private theorem orElse_eq_error_iff {x y : Answer} (hy : ∃ answer, y = .ok answer) :
    orElse x y = .error fault ↔ x = .error fault := by
  obtain ⟨answer, rfl⟩ := hy
  cases x with
  | error e => exact Iff.rfl
  | ok first => cases first <;> exact ⟨nofun, nofun⟩

theorem exists_answer {op : Operator} (ha : a.Writable) (hb : b.Writable) (hop : ¬ op.isOrdered)
    (hpattern : op ≠ .pattern) : ∃ answer, op.holds a b = .ok answer := by
  cases op with
  | equals => exact exists_isEqual ha hb
  | notEquals => exact exists_negate (exists_isEqual ha hb)
  | contains => exact exists_includes ha hb
  | notContains => exact exists_negate (exists_includes ha hb)
  | isIn => exact exists_isMember ha
  | notIn => exact exists_negate (exists_isMember ha)
  | pattern => exact absurd rfl hpattern
  | greater | less | greaterEqual | lessEqual => exact absurd rfl hop

theorem holds_eq_error_iff_of_isOrdered {op : Operator} (ha : a.Writable) (hb : b.Writable)
    (hop : op.isOrdered) :
    op.holds a b = .error fault ↔ fault = .numberTooLarge ∧ a.Overflows b := by
  have hcompare : ∀ f : Comparable → Bool, (a.compare b).map f = .error fault ↔
      fault = .numberTooLarge ∧ a.Overflows b := by
    intro f
    rw [map_eq_error_iff, Value.compare_eq_error_iff ha hb]
  have hequal := exists_isEqual ha hb
  cases op with
  | greater | less => exact hcompare _
  | greaterEqual | lessEqual => exact (orElse_eq_error_iff hequal).trans (hcompare _)
  | _ => cases hop

theorem holds_eq_error_iff_of_writable {op : Operator} (ha : a.Writable) (hb : b.Writable) :
    op.holds a b = .error fault ↔ op.Fails a b fault := by
  by_cases hop : op.isOrdered
  · rw [holds_eq_error_iff_of_isOrdered ha hb hop, fails_iff_of_isOrdered ha hop]
  · by_cases hpattern : op = .pattern
    · rw [hpattern]
      exact fits_eq_error_iff ha hb
    · obtain ⟨answer, hanswer⟩ := exists_answer ha hb hop hpattern
      rw [hanswer]
      exact ⟨nofun, fun hfails => absurd hfails (not_fails ha hop hpattern)⟩

section

variable {op : Operator} (ha : a.Convertible) (hdeep : a.TooDeep) (hb : b.Writable)

include ha hdeep

theorem fails_iff_of_tooDeep : op.Fails a b fault ↔
    op.AsksText b ∧ fault = .nestedTooDeeply ∨ op = .pattern ∧ PatternFails b fault := by
  constructor
  · intro hfails
    cases hfails with
    | overflow _ hover => exact absurd hover hdeep.not_overflows
    | nesting hasks _ => exact Or.inl ⟨hasks, rfl⟩
    | reading hpattern => exact Or.inr ⟨rfl, hpattern⟩
    | crossing _ htext _ =>
      rw [ha.display_of_tooDeep hdeep] at htext
      cases htext
  · rintro (⟨hasks, rfl⟩ | ⟨rfl, hpattern⟩)
    · exact .nesting hasks hdeep
    · exact .reading hpattern

include hb

theorem holds_of_asksText (hasks : op.AsksText b) : op.holds a b = .error .nestedTooDeeply := by
  have hshown := ha.display_of_tooDeep hdeep
  have hcompare := ha.compare_of_tooDeep hdeep b
  have hequal : isEqual a b = .error .nestedTooDeeply := by
    rw [isEqual, hshown]
    rfl
  have hincludes : includes a b = .error .nestedTooDeeply := by
    obtain ⟨t, ht⟩ := hb.exists_display
    rw [includes, ht, hshown]
    rfl
  cases op with
  | equals => exact hequal
  | notEquals => exact congrArg negate hequal
  | contains => exact hincludes
  | notContains => exact congrArg negate hincludes
  | greater | less => exact congrArg (Except.map _) hcompare
  | greaterEqual | lessEqual => exact congrArg (fun c => orElse (Except.map _ c) _) hcompare
  | pattern =>
    obtain ⟨p, hp⟩ := hasks
    rw [holds, fits, hp]
    simp only [bind, Except.bind, found, hshown]
  | isIn | notIn =>
    obtain ⟨texts, htexts⟩ := hasks
    simp [holds, isMember, htexts, hshown, negate, Except.map]

end

/-- An operator that does not look at the text fails only on a pattern that cannot be read. -/
theorem holds_eq_error_iff_of_not_asksText {op : Operator} (hb : b.Writable)
    (hasks : ¬ op.AsksText b) :
    op.holds a b = .error fault ↔ op = .pattern ∧ PatternFails b fault := by
  have htexts : (¬ ∃ texts, b.texts? = some texts) → isMember a b = .ok false := by
    intro hnone
    rw [isMember, Option.eq_none_iff_forall_ne_some.mpr fun texts htexts => hnone ⟨texts, htexts⟩]
  cases op with
  | pattern =>
    rw [← patternOf_eq_error_iff hb, holds, fits, bind_eq_error_iff, and_iff_right rfl]
    refine or_iff_left ?_
    rintro ⟨read, hread, herror⟩
    cases read with
    | none => cases herror
    | some p => exact hasks ⟨p, hread⟩
  | isIn => simp [holds, htexts hasks]
  | notIn => simp [holds, htexts hasks, negate, Except.map]
  | _ => exact absurd trivial hasks

/-- An operator has no answer in these cases only. -/
theorem holds_eq_error_iff {op : Operator} (ha : a.Convertible) (hb : b.Writable) :
    op.holds a b = .error fault ↔ op.Fails a b fault := by
  by_cases hdeep : a.TooDeep
  · rw [fails_iff_of_tooDeep ha hdeep]
    by_cases hasks : op.AsksText b
    · rw [holds_of_asksText ha hdeep hb hasks]
      constructor
      · exact fun h => Or.inl ⟨hasks, (Except.error.inj h).symm⟩
      · rintro (⟨-, rfl⟩ | ⟨rfl, hpattern⟩)
        · rfl
        · obtain ⟨p, hp⟩ := hasks
          rw [(patternOf_eq_error_iff hb).mpr hpattern] at hp
          cases hp
    · rw [holds_eq_error_iff_of_not_asksText hb hasks]
      exact ⟨Or.inr, fun h => h.resolve_left fun hfirst => hasks hfirst.1⟩
  · exact holds_eq_error_iff_of_writable ⟨ha, hdeep⟩ hb

end Operator

/-- The record has the field of the condition, and the operator has no answer on its value. -/
def Expression.Fails (e : Expression) (record : Record) (fault : Fault) : Prop :=
  ∃ value, record.lookup e.field = some value ∧ e.operator.Fails value e.value fault

/-- A condition fails before the answer is decided by those in front of it. -/
def Filter.Fails (f : Filter) (record : Record) (fault : Fault) : Prop :=
  ∃ before e after, f.expressions = before ++ e :: after ∧
    (∀ other ∈ before, other.holds record = .ok (!f.isAny)) ∧ e.Fails record fault

variable {record : Record} {fault : Fault}

theorem Expression.holds_eq_error_iff {e : Expression}
    (hrecord : ∀ entry ∈ record, entry.2.Convertible) (he : e.value.Writable) :
    e.holds record = .error fault ↔ e.Fails record fault := by
  rw [Expression.holds, Expression.Fails]
  cases hlookup : record.lookup e.field with
  | none =>
    constructor
    · intro hanswer
      cases hanswer
    · rintro ⟨value, hvalue, -⟩
      cases hvalue
  | some value =>
    obtain ⟨before, after, hmem, -⟩ := List.lookup_eq_some_iff.mp hlookup
    have hvalue : value.Convertible := hrecord (e.field, value) (by simp [hmem])
    simp [Operator.holds_eq_error_iff hvalue he]

/-- The first test without an answer is reached if all tests in front of it leave it open. -/
theorem combine_eq_error_iff {isAny : Bool} {tests : List RecordTest} :
    combine isAny tests record = .error fault ↔
      ∃ before test after, tests = before ++ test :: after ∧
        (∀ other ∈ before, other record = .ok (!isAny)) ∧ test record = .error fault := by
  induction tests with
  | nil => cases isAny <;> exact ⟨nofun, fun ⟨before, _, _, h, _⟩ => by cases before <;> cases h⟩
  | cons test tests ih =>
    have hopen : (if (!isAny) = isAny then Except.ok isAny else combine isAny tests record) =
        combine isAny tests record := by
      cases isAny <;> rfl
    rw [combine_cons, bind_eq_error_iff]
    constructor
    · rintro (hfails | ⟨answer, hanswer, hrest⟩)
      · exact ⟨[], test, tests, rfl, nofun, hfails⟩
      · by_cases hdecided : answer = isAny
        · rw [if_pos hdecided] at hrest
          cases hrest
        · rw [Bool.eq_not_of_ne hdecided] at hanswer hrest
          rw [hopen] at hrest
          obtain ⟨before, failing, after, rfl, hbefore, hfails⟩ := ih.mp hrest
          refine ⟨test :: before, failing, after, rfl, ?_, hfails⟩
          intro other hother
          rcases List.mem_cons.mp hother with rfl | hother
          · exact hanswer
          · exact hbefore other hother
    · rintro ⟨before, failing, after, hsplit, hbefore, hfails⟩
      cases before with
      | nil =>
        obtain ⟨rfl, rfl⟩ := List.cons.inj hsplit
        exact Or.inl hfails
      | cons first before =>
        obtain ⟨rfl, rfl⟩ := List.cons.inj hsplit
        refine Or.inr ⟨!isAny, hbefore test List.mem_cons_self, ?_⟩
        rw [hopen]
        exact ih.mpr ⟨before, failing, after, rfl,
          fun other hother => hbefore other (List.mem_cons_of_mem _ hother), hfails⟩

/-- A filter has no answer on a record in these cases only. -/
theorem Filter.holds_eq_error_iff {f : Filter} (hrecord : ∀ entry ∈ record, entry.2.Convertible)
    (hf : ∀ e ∈ f.expressions, e.value.Writable) :
    f.holds record = .error fault ↔ f.Fails record fault := by
  rw [Filter.holds]
  by_cases hempty : f.isEmpty
  · rw [if_pos hempty]
    constructor
    · intro hanswer
      cases hanswer
    · rintro ⟨before, e, after, hsplit, -⟩
      rw [List.isEmpty_iff.mp hempty] at hsplit
      simp at hsplit
  · rw [if_neg hempty, combine_eq_error_iff]
    constructor
    · rintro ⟨before, test, after, hsplit, hbefore, hfails⟩
      obtain ⟨first, rest, hexpressions, rfl, hrest⟩ := List.map_eq_append_iff.mp hsplit
      obtain ⟨e, last, rfl, rfl, rfl⟩ := List.map_eq_cons_iff.mp hrest
      have he : e ∈ f.expressions := by simp [hexpressions]
      refine ⟨first, e, last, hexpressions, ?_,
        (Expression.holds_eq_error_iff hrecord (hf e he)).mp hfails⟩
      exact fun other hother => hbefore other.holds (List.mem_map_of_mem hother)
    · rintro ⟨before, e, after, hexpressions, hbefore, hfails⟩
      have he : e ∈ f.expressions := by simp [hexpressions]
      refine ⟨before.map Expression.holds, e.holds, after.map Expression.holds, ?_, ?_,
        (Expression.holds_eq_error_iff hrecord (hf e he)).mpr hfails⟩
      · rw [hexpressions, List.map_append, List.map_cons]
      · intro test htest
        obtain ⟨other, hother, rfl⟩ := List.mem_map.mp htest
        exact hbefore other hother

end RecordFilter
