import Mathlib.Data.List.Forall2
import RecordFilter.Proofs.Filter.Combination

/-!
Conditions and their opposites.

Equality, containment and membership come with opposite operators. A condition and its opposite
have opposite answers on a record that has the field, so one of several conditions is met where not
all of their opposites are. On a record without the field neither of the two is met.
-/

namespace RecordFilter

namespace Operator

/-- The operator with the opposite answers. The operators that compare by order or by a pattern have
    none. -/
def opposite? : Operator → Option Operator
  | equals => some notEquals
  | notEquals => some equals
  | contains => some notContains
  | notContains => some contains
  | isIn => some notIn
  | notIn => some isIn
  | greater | less | greaterEqual | lessEqual | pattern => none

theorem negate_negate (a : Answer) : negate (negate a) = a := by
  cases a with
  | error fault => rfl
  | ok answer => cases answer <;> rfl

theorem holds_of_opposite? {op other : Operator} (hopposite : op.opposite? = some other)
    (a b : Value) : other.holds a b = negate (op.holds a b) := by
  cases op with
  | equals | contains | isIn =>
    cases hopposite
    rfl
  | notEquals | notContains | notIn =>
    cases hopposite
    exact (negate_negate _).symm
  | _ => cases hopposite

end Operator

namespace Expression

/-- The condition with the opposite operator. -/
def opposite? (e : Expression) : Option Expression :=
  e.operator.opposite?.map fun op => { e with operator := op }

variable {e other : Expression} {record : Record}

theorem exists_of_opposite? (hopposite : e.opposite? = some other) :
    ∃ op, e.operator.opposite? = some op ∧ other = { e with operator := op } := by
  obtain ⟨op, hop, hother⟩ := Option.map_eq_some_iff.mp hopposite
  exact ⟨op, hop, hother.symm⟩

/-- A record with the field meets a condition if it does not meet the opposite one. -/
theorem holds_of_opposite? (hopposite : e.opposite? = some other) {v : Value}
    (hfield : record.lookup e.field = some v) :
    other.holds record = Operator.negate (e.holds record) := by
  obtain ⟨op, hop, rfl⟩ := exists_of_opposite? hopposite
  simp only [holds, hfield]
  exact Operator.holds_of_opposite? hop v e.value

end Expression

section

variable {record : Record}

/-- Tests with opposite answers, combined by the other logic, have the opposite answer. They are
    made until the same one of them decides it, so they fail alike. -/
theorem combine_of_opposites {isAny : Bool} {tests others : List RecordTest}
    (hopposites : List.Forall₂ (fun test other : RecordTest =>
      other record = Operator.negate (test record)) tests others) :
    combine (!isAny) others record = Operator.negate (combine isAny tests record) := by
  induction hopposites with
  | nil => cases isAny <;> rfl
  | @cons test other tests others hopposite _ ih =>
    rw [combine_cons, combine_cons, hopposite, ih]
    cases test record with
    | error fault => rfl
    | ok answer => cases answer <;> cases isAny <;> rfl

/-- A test that is not met makes no difference where one of several has to be. -/
theorem combine_true_append_cons {test : RecordTest} (htest : test record = .ok false)
    (before after : List RecordTest) :
    combine true (before ++ test :: after) record = combine true (before ++ after) record := by
  induction before with
  | nil =>
    rw [List.nil_append, combine_cons, htest]
    rfl
  | cons first before ih => rw [List.cons_append, combine_cons, ih, List.cons_append, combine_cons]

end

namespace Filter

variable {f : Filter} {record : Record}

/-- Opposite conditions, combined by the other logic, have the opposite answer on a record with all
    the fields. -/
theorem holds_of_forall₂_opposite? {g : Filter} (hsome : f.expressions ≠ [])
    (hopposites :
      List.Forall₂ (fun e other => e.opposite? = some other) f.expressions g.expressions)
    (hlogic : g.isAny = !f.isAny)
    (hfields : ∀ e ∈ f.expressions, ∃ v, record.lookup e.field = some v) :
    g.holds record = Operator.negate (f.holds record) := by
  have hothers : g.expressions ≠ [] := by
    intro hnil
    rw [hnil] at hopposites
    exact hsome (List.forall₂_nil_right_iff.mp hopposites)
  have hanswers : List.Forall₂
      (fun e other => other.holds record = Operator.negate (e.holds record)) f.expressions
      g.expressions := by
    refine ((List.forall₂_and_left _ _).mpr ⟨hfields, hopposites⟩).imp ?_
    rintro e other ⟨⟨v, hv⟩, hopposite⟩
    exact Expression.holds_of_opposite? hopposite hv
  rw [holds_eq_combine hsome, holds_eq_combine hothers, hlogic]
  apply combine_of_opposites
  rwa [List.forall₂_map_left_iff, List.forall₂_map_right_iff]

/-- Each filter that asks for all of its conditions fails to select a record that lacks the field of
    one of them, if they have answers. -/
theorem holds_of_lookup_none_of_all {e : Expression} (hall : f.isAny = false)
    (he : e ∈ f.expressions) (hlookup : record.lookup e.field = none)
    (hanswers : ∀ other ∈ f.expressions, ∃ answer, other.holds record = .ok answer) :
    f.holds record = .ok false := by
  have hmet : e.isMet record = false := by
    rw [Expression.isMet, Expression.holds_of_lookup_none hlookup]
    rfl
  have hnot : f.expressions.all (·.isMet record) = false :=
    List.all_eq_false.mpr ⟨e, he, Bool.eq_false_iff.mp hmet⟩
  rw [holds_eq_ok_isMet hanswers, isMet_of_all hall, hnot]

/-- One of several conditions is met on a record with all their fields if not all of their
    opposites are. A condition whose field the record does not have is not met, and neither is its
    opposite. It makes no difference to a filter that asks for one of its conditions and has another
    one, and a filter that asks for all does not select the record. -/
theorem holds_of_opposites_or_without_field (record : Record) :
    (∀ f g : Filter, f.isAny → g.isAny = false → f.expressions ≠ [] →
      List.Forall₂ (fun e other => e.opposite? = some other) f.expressions g.expressions →
      (∀ e ∈ f.expressions, ∃ answer, e.holds record = .ok answer) →
      (∀ e ∈ f.expressions, ∃ v, record.lookup e.field = some v) →
      ∃ answer, f.holds record = .ok answer ∧ g.holds record = .ok (!answer)) ∧
    ∀ e : Expression, record.lookup e.field = none →
      e.holds record = .ok false ∧
      (∀ other, e.opposite? = some other → other.holds record = .ok false) ∧
      (∀ before after name description, before ++ after ≠ [] →
        Filter.holds ⟨before ++ e :: after, orLogic, name, description⟩ record =
          Filter.holds ⟨before ++ after, orLogic, name, description⟩ record) ∧
      ∀ f : Filter, f.isAny = false → e ∈ f.expressions →
        (∀ other ∈ f.expressions, ∃ answer, other.holds record = .ok answer) →
        f.holds record = .ok false := by
  refine ⟨fun f g hany hall hsome hopposites hanswers hfields => ?_, fun e hlookup => ?_⟩
  · have hopposite := holds_of_forall₂_opposite? hsome hopposites (by rw [hany, hall]; rfl) hfields
    refine ⟨f.isMet record, holds_eq_ok_isMet hanswers, ?_⟩
    rw [hopposite, holds_eq_ok_isMet hanswers]
    rfl
  · refine ⟨Expression.holds_of_lookup_none hlookup, fun other hopposite => ?_,
      fun before after name description hsome => ?_,
      fun f hall he hanswers => holds_of_lookup_none_of_all hall he hlookup hanswers⟩
    · obtain ⟨op, -, rfl⟩ := Expression.exists_of_opposite? hopposite
      exact Expression.holds_of_lookup_none hlookup
    · have hlonger : before ++ e :: after ≠ [] := List.append_ne_nil_of_right_ne_nil _ (by simp)
      rw [holds_eq_combine hlonger, holds_eq_combine hsome]
      simp only [List.map_append, List.map_cons]
      exact combine_true_append_cons (Expression.holds_of_lookup_none hlookup) _ _

/-- None of three conditions is met, one of them with a value that is no list, and their opposites
    all are. A condition on a user makes no difference to the first ones, and is met by no record
    that has none. -/
theorem holds_of_opposites_and_without_user :
    let record : Record := [("State".toList, .text "RUNNING".toList), ("CPUs".toList, .integer 8)]
    let condition (field : String) (op : Operator) (value : String) : Expression :=
      ⟨field.toList, op, .text value.toList, .string⟩
    let given := [condition "State" .equals "running", condition "CPUs" .isIn "8",
      condition "State" .notContains "run"]
    let opposites := [condition "State" .notEquals "running", condition "CPUs" .notIn "8",
      condition "State" .contains "run"]
    let user := condition "User" .notEquals "alice"
    Filter.holds ⟨given, orLogic, none, none⟩ record = .ok false ∧
      Filter.holds ⟨opposites, andLogic, none, none⟩ record = .ok true ∧
      user.holds record = .ok false ∧ (condition "User" .equals "alice").holds record = .ok false ∧
      Filter.holds ⟨user :: opposites, orLogic, none, none⟩ record =
        Filter.holds ⟨opposites, orLogic, none, none⟩ record ∧
      Filter.holds ⟨user :: opposites, andLogic, none, none⟩ record = .ok false := by
  intro record condition given opposites user
  obtain ⟨hopposite, hwithout⟩ := holds_of_opposites_or_without_field record
  have hgiven : ∀ e ∈ given, ∃ answer, e.holds record = .ok answer := by
    simp only [given, List.forall_mem_cons]
    exact ⟨⟨_, rfl⟩, ⟨_, rfl⟩, ⟨_, rfl⟩, nofun⟩
  have hfields : ∀ e ∈ given, ∃ v, record.lookup e.field = some v := by
    simp only [given, List.forall_mem_cons]
    exact ⟨⟨_, rfl⟩, ⟨_, rfl⟩, ⟨_, rfl⟩, nofun⟩
  have hanswers : ∀ e ∈ user :: opposites, ∃ answer, e.holds record = .ok answer := by
    simp only [opposites, List.forall_mem_cons]
    exact ⟨⟨_, rfl⟩, ⟨_, rfl⟩, ⟨_, rfl⟩, ⟨_, rfl⟩, nofun⟩
  obtain ⟨answer, hone, hall⟩ := hopposite ⟨given, orLogic, none, none⟩
    ⟨opposites, andLogic, none, none⟩ rfl rfl (List.cons_ne_nil _ _)
    (.cons rfl (.cons rfl (.cons rfl .nil))) hgiven hfields
  obtain rfl : answer = false := Except.ok.inj (hone.symm.trans rfl)
  obtain ⟨hnot, hneither, hany, hfails⟩ := hwithout user rfl
  exact ⟨hone, hall, hnot, hneither _ rfl, hany [] opposites none none (List.cons_ne_nil _ _),
    hfails ⟨user :: opposites, andLogic, none, none⟩ rfl List.mem_cons_self hanswers⟩

end Filter

end RecordFilter
