import RecordFilter.Filter.Evaluation

/-!
How the answers of the conditions of a filter are put together to the answer of the filter.
-/

namespace RecordFilter

variable {record : Record}

/-- Tests are made until one decides the answer, which is the same one for both logics. -/
theorem combine_cons (isAny : Bool) (test : RecordTest) (tests : List RecordTest) :
    combine isAny (test :: tests) record =
      test record >>= fun answer =>
        if answer = isAny then .ok isAny else combine isAny tests record := by
  cases isAny <;> simp only [combine, anyOf, allOf] <;> cases test record with
  | error e => rfl
  | ok answer => cases answer <;> rfl

/-- Tests that all have an answer ask for one or for all of the answers. -/
theorem combine_map_eq_ok {α : Type} {isAny : Bool} {test : α → RecordTest} {answer : α → Bool}
    {items : List α} (hanswers : ∀ item ∈ items, test item record = .ok (answer item)) :
    combine isAny (items.map test) record =
      .ok (if isAny then items.any answer else items.all answer) := by
  induction items with
  | nil => cases isAny <;> rfl
  | cons item items ih =>
    have hrest := ih fun other hother => hanswers other (List.mem_cons_of_mem item hother)
    rw [List.map_cons, combine_cons, hanswers item List.mem_cons_self, hrest, List.any_cons,
      List.all_cons]
    cases isAny <;> cases answer item <;> rfl

namespace Expression

theorem holds_of_lookup_none {e : Expression} (hlookup : record.lookup e.field = none) :
    e.holds record = .ok false := by
  rw [holds, hlookup]

/-- The record meets the condition. -/
def isMet (e : Expression) (record : Record) : Bool :=
  (e.holds record).toOption = some true

end Expression

namespace Filter

variable {f : Filter}

theorem holds_eq_combine (hsome : f.expressions ≠ []) :
    f.holds record = combine f.isAny (f.expressions.map Expression.holds) record := by
  rw [holds, if_neg]
  rwa [isEmpty, List.isEmpty_iff]

/-- Conditions that all ask about one thing have answers if that is there, and fail together. -/
theorem holds_eq_map {α β : Type} {items : List α} {expression : α → Expression}
    {shown : Except Fault β} {answer : α → β → Bool}
    (hexpressions : f.expressions = items.map expression) (hsome : items ≠ [])
    (hanswers : ∀ item ∈ items, (expression item).holds record = shown.map (answer item)) :
    f.holds record = shown.map fun s =>
      if f.isAny then items.any (answer · s) else items.all (answer · s) := by
  have hexpression : f.expressions ≠ [] := by
    rwa [hexpressions, Ne, List.map_eq_nil_iff]
  rw [holds_eq_combine hexpression, hexpressions, List.map_map]
  cases shown with
  | ok s => exact combine_map_eq_ok hanswers
  | error fault =>
    -- The first condition fails already, whichever the logic is.
    obtain ⟨first, others, rfl⟩ := List.exists_cons_of_ne_nil hsome
    have hfirst : (expression first).holds record = .error fault :=
      hanswers first List.mem_cons_self
    rw [List.map_cons, combine_cons, Function.comp_apply, hfirst]
    rfl

theorem holds_of_singleton {e : Expression} (hexpressions : f.expressions = [e]) :
    f.holds record = e.holds record := by
  have hsome : f.expressions ≠ [] := by
    rw [hexpressions]
    exact List.cons_ne_nil e []
  rw [holds_eq_combine hsome, hexpressions, List.map_singleton, combine_cons]
  cases e.holds record with
  | error fault => rfl
  | ok answer => cases answer <;> cases f.isAny <;> rfl

/-- A record without the fields of a filter is not selected. -/
theorem holds_of_lookup_none (hsome : f.expressions ≠ [])
    (hlookup : ∀ e ∈ f.expressions, record.lookup e.field = none) : f.holds record = .ok false := by
  have hanswers : ∀ e ∈ f.expressions, e.holds record = .ok false :=
    fun e he => Expression.holds_of_lookup_none (hlookup e he)
  rw [holds_eq_combine hsome, combine_map_eq_ok hanswers]
  obtain ⟨e, others, heq⟩ := List.exists_cons_of_ne_nil hsome
  simp [heq]

/-- Only the filter without conditions selects every record: any other does not select the record
    without fields. -/
theorem isEmpty_iff_forall_holds : f.isEmpty ↔ ∀ record, f.holds record = .ok true := by
  constructor
  · intro hempty record
    rw [holds, if_pos hempty]
  · intro hall
    cases hempty : f.isEmpty with
    | true => rfl
    | false =>
      have hsome : f.expressions ≠ [] := List.isEmpty_eq_false_iff.mp hempty
      have hnone : f.holds [] = .ok false := holds_of_lookup_none hsome fun _ _ => rfl
      rw [hall] at hnone
      cases hnone

/-- Whether the record meets the conditions of the filter that it has to meet. -/
def isMet (f : Filter) (record : Record) : Bool :=
  if f.isAny && !f.isEmpty then f.expressions.any (·.isMet record)
  else f.expressions.all (·.isMet record)

theorem isMet_of_any (hany : f.isAny) (hsome : f.expressions ≠ []) (record : Record) :
    f.isMet record = f.expressions.any (·.isMet record) := by
  have hempty : f.isEmpty = false := List.isEmpty_eq_false_iff.mpr hsome
  rw [isMet, hany, hempty]
  rfl

theorem isMet_of_all (hall : f.isAny = false) (record : Record) :
    f.isMet record = f.expressions.all (·.isMet record) := by
  rw [isMet, hall]
  rfl

theorem holds_eq_ok_isMet {record : Record}
    (hanswers : ∀ e ∈ f.expressions, ∃ answer, e.holds record = .ok answer) :
    f.holds record = .ok (f.isMet record) := by
  have hmet : ∀ e ∈ f.expressions, e.holds record = .ok (e.isMet record) := by
    intro e he
    obtain ⟨answer, hanswer⟩ := hanswers e he
    cases answer <;> simp [Expression.isMet, hanswer, Except.toOption]
  rw [holds, isMet]
  cases hempty : f.isEmpty with
  | true => simp [List.isEmpty_iff.mp hempty]
  | false =>
    rw [combine_map_eq_ok hmet]
    cases f.isAny <;> rfl

end Filter

end RecordFilter
