import RecordFilter.Proofs.Filter.Combination
import RecordFilter.Proofs.Filter.Selection

/-!
Selecting by several filters.

As long as every condition has an answer, a filter keeps the items of which one or all of its
conditions are so. Filters one after the other therefore keep what the conditions of all of them
keep, and it does not matter where a condition stands in its filter or how often.
-/

namespace RecordFilter

/-- All the patterns among the conditions can be read, and each condition has an answer on each of
    the records. -/
structure Expression.Answerable (expressions : List Expression) (records : List Record) : Prop where
  compiles : ∀ e ∈ expressions, ∃ test, e.compile = .ok test
  answers : ∀ e ∈ expressions, ∀ record ∈ records, ∃ answer, e.holds record = .ok answer

namespace Filter

variable {f : Filter}

theorem exists_compile (hcompiles : ∀ e ∈ f.expressions, ∃ test, e.compile = .ok test) :
    ∃ test, f.compile = .ok test := by
  rw [compile]
  split
  · exact ⟨_, rfl⟩
  · obtain ⟨tests, htests⟩ := exists_mapM_eq_ok_iff.mpr hcompiles
    rw [htests]
    exact ⟨_, rfl⟩

variable {α : Type} {recordOf : α → Record} {items : List α}

/-- The items that are kept are those that meet the conditions. -/
theorem select_eq_filter_isMet
    (hanswerable : Expression.Answerable f.expressions (items.map recordOf)) :
    select (some f) recordOf items = .ok (items.filter fun item => f.isMet (recordOf item)) := by
  obtain ⟨test, htest⟩ := exists_compile hanswerable.compiles
  refine select_eq_filter htest fun item hitem => ?_
  exact holds_eq_ok_isMet fun e he =>
    hanswerable.answers e he (recordOf item) (List.mem_map_of_mem hitem)

/-- A filter with the same conditions, in another order or another number of times, is met by the
    same records. -/
theorem isMet_congr {g : Filter} (hsame : ∀ e, e ∈ g.expressions ↔ e ∈ f.expressions)
    (hlogic : g.isAny = f.isAny) (record : Record) : g.isMet record = f.isMet record := by
  have hempty : g.isEmpty = f.isEmpty := by
    rw [Bool.eq_iff_iff, isEmpty, isEmpty, List.isEmpty_iff, List.isEmpty_iff,
      List.eq_nil_iff_forall_not_mem, List.eq_nil_iff_forall_not_mem]
    exact forall_congr' fun e => not_congr (hsame e)
  have hany : g.expressions.any (·.isMet record) = f.expressions.any (·.isMet record) := by
    rw [Bool.eq_iff_iff, List.any_eq_true, List.any_eq_true]
    exact exists_congr fun e => and_congr_left' (hsame e)
  have hall : g.expressions.all (·.isMet record) = f.expressions.all (·.isMet record) := by
    rw [Bool.eq_iff_iff, List.all_eq_true, List.all_eq_true]
    exact forall_congr' fun e => imp_congr_left (hsame e)
  rw [isMet, isMet, hlogic, hempty, hany, hall]

end Filter

namespace Expression.Answerable

variable {expressions others : List Expression} {records : List Record}

theorem mono (hanswerable : Answerable expressions records)
    (hothers : others ⊆ expressions) : Answerable others records :=
  ⟨fun e he => hanswerable.compiles e (hothers he),
    fun e he => hanswerable.answers e (hothers he)⟩

theorem of_records {fewer : List Record} (hanswerable : Answerable expressions records)
    (hfewer : fewer ⊆ records) : Answerable expressions fewer :=
  ⟨hanswerable.compiles,
    fun e he record hrecord => hanswerable.answers e he record (hfewer hrecord)⟩

end Expression.Answerable

namespace Filter

variable {f g : Filter} {α : Type} {recordOf : α → Record} {items : List α}

/-- As long as the conditions of two filters have answers: if both filters ask for all of theirs,
    selecting by the second from what the first selects is selecting by all conditions at once. If
    each asks for one of its conditions and has some, what is selected by one of all conditions is
    what one of the filters selects. A filter with the same conditions and logic selects the same,
    wherever and however often it has them. -/
theorem select_of_joined_conditions
    (hanswerable : Expression.Answerable (f.expressions ++ g.expressions) (items.map recordOf)) :
    (f.isAny = false → g.isAny = false → ∀ name description, ∃ kept found,
      select (some f) recordOf items = .ok kept ∧ select (some g) recordOf kept = .ok found ∧
        select (some ⟨f.expressions ++ g.expressions, andLogic, name, description⟩) recordOf items =
          .ok found) ∧
    (∀ h : Filter, (∀ e, e ∈ h.expressions ↔ e ∈ f.expressions) → h.isAny = f.isAny →
      select (some h) recordOf items = select (some f) recordOf items) ∧
    (f.isAny → g.isAny → f.expressions ≠ [] → g.expressions ≠ [] → ∀ name description,
      ∃ first second joined, select (some f) recordOf items = .ok first ∧
        select (some g) recordOf items = .ok second ∧
        select (some ⟨f.expressions ++ g.expressions, orLogic, name, description⟩) recordOf items =
          .ok joined ∧
        ∀ item, item ∈ joined ↔ item ∈ first ∨ item ∈ second) := by
  have hfirst := hanswerable.mono (List.subset_append_left f.expressions g.expressions)
  have hsecond := hanswerable.mono (List.subset_append_right f.expressions g.expressions)
  refine ⟨fun hf hg name description => ?_, fun h hsame hlogic => ?_,
    fun hf hg hfsome hgsome name description => ?_⟩
  · let joined : Filter := ⟨f.expressions ++ g.expressions, andLogic, name, description⟩
    have hkept : (items.filter fun item => f.isMet (recordOf item)).map recordOf ⊆
        items.map recordOf := (List.filter_sublist.map recordOf).subset
    refine ⟨_, _, select_eq_filter_isMet hfirst, select_eq_filter_isMet (hsecond.of_records hkept),
      (select_eq_filter_isMet (f := joined) hanswerable).trans ?_⟩
    have hmet : ∀ record, joined.isMet record = (g.isMet record && f.isMet record) := by
      intro record
      rw [isMet_of_all rfl, isMet_of_all hf, isMet_of_all hg, Bool.and_comm, List.all_append]
    rw [List.filter_filter]
    exact congrArg Except.ok (List.filter_congr fun item _ => hmet (recordOf item))
  · have hother : Expression.Answerable h.expressions (items.map recordOf) :=
      hfirst.mono fun e he => (hsame e).mp he
    rw [select_eq_filter_isMet hother, select_eq_filter_isMet hfirst]
    exact congrArg Except.ok
      (List.filter_congr fun item _ => isMet_congr hsame hlogic (recordOf item))
  · let joined : Filter := ⟨f.expressions ++ g.expressions, orLogic, name, description⟩
    refine ⟨_, _, _, select_eq_filter_isMet hfirst, select_eq_filter_isMet hsecond,
      select_eq_filter_isMet (f := joined) hanswerable, fun item => ?_⟩
    have hmet : joined.isMet (recordOf item) =
        (f.isMet (recordOf item) || g.isMet (recordOf item)) := by
      rw [isMet_of_any rfl (List.append_ne_nil_of_left_ne_nil hfsome _), isMet_of_any hf hfsome,
        isMet_of_any hg hgsome, List.any_append]
    simp only [List.mem_filter, hmet, Bool.or_eq_true, and_or_left]

/-- A pattern and an equality on four records: one after the other, in another order and twice, and
    either of them. -/
theorem select_of_joined_names_and_states :
    let name : Expression := ⟨"Name".toList, .pattern, .text "^a".toList, .string⟩
    let state : Expression := ⟨"State".toList, .equals, .boolean true, .boolean⟩
    let row (name state : String) : Record :=
      [("Name".toList, .text name.toList), ("State".toList, .text state.toList)]
    let items := [row "ab" "true", row "b" "true", row "ab" "false", row "b" "false"]
    let all (expressions : List Expression) : Filter := ⟨expressions, andLogic, none, none⟩
    let any (expressions : List Expression) : Filter := ⟨expressions, orLogic, none, none⟩
    (∃ kept, select (some (all [name])) id items = .ok kept ∧
      select (some (all [state])) id kept = .ok [row "ab" "true"] ∧
      select (some (all [name, state])) id items = .ok [row "ab" "true"] ∧
      select (some (all [state, name, state])) id items = .ok [row "ab" "true"]) ∧
    ∃ joined, select (some (any [name, state])) id items = .ok joined ∧
      row "b" "true" ∈ joined ∧ row "ab" "false" ∈ joined := by
  intro name state row items all any
  have hanswers : ∀ e ∈ [name, state], ∀ record ∈ items, ∃ answer, e.holds record = .ok answer := by
    intro e he record hrecord
    simp only [items, List.mem_cons, List.not_mem_nil, or_false] at he hrecord
    rcases he with rfl | rfl <;> rcases hrecord with rfl | rfl | rfl | rfl
    all_goals exact ⟨_, rfl⟩
  have hcompiles : ∀ e ∈ [name, state], ∃ test, e.compile = .ok test := by
    intro e he
    simp only [List.mem_cons, List.not_mem_nil, or_false] at he
    rcases he with rfl | rfl
    all_goals exact ⟨_, rfl⟩
  have hanswerable : Expression.Answerable [name, state] (items.map id) :=
    ⟨hcompiles, by rwa [List.map_id]⟩
  constructor
  · have hjoined := select_of_joined_conditions (f := all [name]) (g := all [state]) hanswerable
    obtain ⟨kept, found, hkept, hfound, hboth⟩ := hjoined.1 rfl rfl none none
    have hpermuted :=
      (select_of_joined_conditions (f := all [name, state]) (g := all []) hanswerable).2.1
    have htwice := hpermuted (all [state, name, state]) (fun e => by simp [all]; tauto) rfl
    have hrows : select (some (all [name, state])) id items = .ok [row "ab" "true"] := rfl
    have hsame : found = [row "ab" "true"] := Except.ok.inj (hboth.symm.trans hrows)
    exact ⟨kept, hkept, hsame ▸ hfound, hrows, htwice.trans hrows⟩
  · have hjoined := select_of_joined_conditions (f := any [name]) (g := any [state]) hanswerable
    obtain ⟨first, second, joined, hfirst, hsecond, hboth, hmem⟩ :=
      hjoined.2.2 rfl rfl (List.cons_ne_nil _ _) (List.cons_ne_nil _ _) none none
    have hnames : first = [row "ab" "true", row "ab" "false"] :=
      Except.ok.inj (hfirst.symm.trans rfl)
    have hstates : second = [row "ab" "true", row "b" "true"] :=
      Except.ok.inj (hsecond.symm.trans rfl)
    refine ⟨joined, hboth, (hmem _).mpr (Or.inr ?_), (hmem _).mpr (Or.inl ?_)⟩
    · simp [hstates]
    · simp [hnames]

end Filter

end RecordFilter
