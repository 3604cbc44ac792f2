import RecordFilter.Filter.Evaluation
import RecordFilter.Proofs.Outcome

/-!
Reading the patterns of a filter beforehand changes none of its answers, and selecting keeps the
items that the filter selects.
-/

namespace RecordFilter

/-- A condition whose pattern has been read asks for the same thing as the condition itself, since
    it looks for the field first and for the pattern only if the field is there. -/
theorem Expression.eq_holds_of_compile {e : Expression} {test : RecordTest}
    (hcompile : e.compile = .ok test) : test = e.holds := by
  unfold Expression.compile at hcompile
  by_cases hop : e.operator = .pattern
  · rw [if_pos hop] at hcompile
    cases hread : Operator.patternOf e.value with
    | error fault => simp [hread, bind, Except.bind] at hcompile
    | ok found =>
      funext record
      cases found with
      | none =>
        simp only [hread, bind, Except.bind, pure, Except.pure, Except.ok.injEq] at hcompile
        subst hcompile
        cases hlookup : record.lookup e.field <;>
          simp [Expression.holds, hlookup, hop, Operator.holds, Operator.fits, hread, bind,
            Except.bind, pure, Except.pure]
      | some p =>
        simp only [hread, bind, Except.bind, pure, Except.pure, Except.ok.injEq] at hcompile
        subst hcompile
        cases hlookup : record.lookup e.field <;>
          simp [Expression.holds, hlookup, hop, Operator.holds, Operator.fits, hread, bind,
            Except.bind]
  · rw [if_neg hop] at hcompile
    exact (Except.ok.inj hcompile).symm

/-- The tests of a filter whose patterns have been read are those of its conditions. -/
theorem Filter.eq_holds_of_compile {f : Filter} {test : RecordTest}
    (hcompile : f.compile = .ok test) : test = f.holds := by
  funext record
  unfold Filter.compile at hcompile
  unfold Filter.holds
  by_cases hempty : f.isEmpty
  · rw [if_pos hempty] at hcompile ⊢
    rw [← Except.ok.inj hcompile]
  · rw [if_neg hempty, map_eq_ok_iff] at hcompile
    obtain ⟨tests, htests, hcombine⟩ := hcompile
    rw [if_neg hempty, ← hcombine, eq_map_of_mapM_eq_ok Expression.eq_holds_of_compile htests]

/-- Selecting keeps the items whose answer is yes, if each of them has an answer. -/
theorem Filter.select_eq_filter {α : Type} {f : Filter} {test : RecordTest}
    (hcompile : f.compile = .ok test) {recordOf : α → Record} {holds : α → Bool} {items : List α}
    (hholds : ∀ item ∈ items, f.holds (recordOf item) = .ok (holds item)) :
    Filter.select (some f) recordOf items = .ok (items.filter holds) := by
  rw [Filter.select]
  by_cases hempty : f.isEmpty
  · rw [if_pos hempty, List.filter_eq_self.mpr]
    intro item hitem
    have hall := hholds item hitem
    rw [Filter.holds, if_pos hempty] at hall
    exact (Except.ok.inj hall).symm
  · rw [if_neg hempty, hcompile, Filter.eq_holds_of_compile hcompile]
    exact filterM_eq_ok_filter hholds

/-- A filter that can be compiled answers on every record as it does when its patterns are read
    anew, faults included. On items that all have an answer, selecting keeps those whose answer is
    yes, each in its place and as often as it is there. -/
theorem Filter.compiled_holds_and_select_eq_filter {f : Filter} {test : RecordTest}
    (hcompile : f.compile = .ok test) :
    (∀ record, test record = f.holds record) ∧
      ∀ {α : Type} (recordOf : α → Record) (items : List α),
        (∀ item ∈ items, ∃ answer, f.holds (recordOf item) = .ok answer) →
        Filter.select (some f) recordOf items =
          .ok (items.filter fun item => (f.holds (recordOf item)).toOption = some true) := by
  have htest := Filter.eq_holds_of_compile hcompile
  refine ⟨fun record => congrFun htest record, ?_⟩
  intro α recordOf items hanswers
  have hholds : ∀ item ∈ items, f.holds (recordOf item) =
      .ok ((f.holds (recordOf item)).toOption = some true) := by
    intro item hitem
    obtain ⟨answer, hanswer⟩ := hanswers item hitem
    cases answer <;> simp [hanswer, Except.toOption]
  simp only [Filter.select]
  by_cases hempty : f.isEmpty
  · have hall : ∀ record, f.holds record = .ok true := by
      intro record
      rw [Filter.holds, if_pos hempty]
    rw [if_pos hempty, List.filter_eq_self.2]
    intro item _
    simp [hall, Except.toOption]
  · simp only [hempty, Bool.false_eq_true, ↓reduceIte, hcompile, bind, Except.bind, htest]
    exact filterM_eq_ok_filter hholds

/-- A pattern and an equality on four records, of which the first and the last meet both. -/
theorem Filter.compiled_holds_and_select_of_names :
    let f : Filter := ⟨[⟨"Name".toList, .pattern, .text "^a".toList, .string⟩,
      ⟨"State".toList, .equals, .boolean true, .boolean⟩], "AND".toList, none, none⟩
    let row (name state : String) : Record :=
      [("Name".toList, .text name.toList), ("State".toList, .text state.toList)]
    let items := [row "ab" "true", row "b" "true", row "ab" "false", row "a" "true"]
    ∃ test, f.compile = .ok test ∧ (∀ record, test record = f.holds record) ∧
      Filter.select (some f) id items = .ok [row "ab" "true", row "a" "true"] := by
  intro f row items
  have hcompile : ∃ test, f.compile = .ok test := ⟨_, rfl⟩
  obtain ⟨test, htest⟩ := hcompile
  obtain ⟨hholds, hselect⟩ := Filter.compiled_holds_and_select_eq_filter htest
  refine ⟨test, htest, hholds, ?_⟩
  have hanswers : ∀ item ∈ items, ∃ answer, f.holds (id item) = .ok answer := by
    intro item hitem
    simp only [items, List.mem_cons, List.not_mem_nil, or_false] at hitem
    rcases hitem with rfl | rfl | rfl | rfl
    · exact ⟨true, by rfl⟩
    · exact ⟨false, by rfl⟩
    · exact ⟨false, by rfl⟩
    · exact ⟨true, by rfl⟩
  rw [hselect id items hanswers]
  rfl

end RecordFilter
