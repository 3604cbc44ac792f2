import RecordFilter.Clause.Parser
import RecordFilter.Proofs.Clause.Reading
import RecordFilter.Proofs.Outcome

/-!
Which clauses are not read, and why.

The reason is always in the shape of the clause: there is nothing in it, nothing on one side of a
list operator, or no operator behind a field. What stands behind an operator made of signs is never
a reason, since every text is read as some value.
-/

namespace RecordFilter.Clause

/-- The list operator that a clause is read at, and what stands around its first occurrence. The
    longer operator is the one that counts where both occur. -/
inductive ListAt (clause : Text) : Operator → Text → Text → Prop
  | notIn {before after : Text}
      (hcut : Text.cut? Operator.notIn.token clause = some (before, after)) :
      ListAt clause .notIn before after
  | isIn {before after : Text} (hnot : Text.cut? Operator.notIn.token clause = none)
      (hcut : Text.cut? Operator.isIn.token clause = some (before, after)) :
      ListAt clause .isIn before after

/-- The reasons why a clause is not read. -/
inductive Rejected (clause : Text) : ParseError → Prop
  | empty (hblank : Text.isBlankText clause) : Rejected clause (emptyClause clause)
  | missingSide {op : Operator} {before after : Text} (hblank : ¬ Text.isBlankText clause)
      (hlist : ListAt clause op before after)
      (hside : Text.trim before = [] ∨ Text.trim after = []) :
      Rejected clause (missingSide op clause)
  /-- An operator that begins the clause is not behind a field, also if it occurs once more. -/
  | noOperator (hblank : ¬ Text.isBlankText clause) (hlist : ¬ Operator.isIn.token <:+: clause)
      (hsigns : ∀ op ∈ Operator.symbolic, op.text <:+: clause → op.text <+: clause) :
      Rejected clause (noOperator clause)

variable {aliases : AliasTable} {clause : Text} {e : ParseError}

/-- A rejection shows the clause that is rejected. -/
theorem Rejected.clause_eq (hrejected : Rejected clause e) : e.clause = some clause := by
  cases hrejected <;> rfl

theorem cutAt?_eq_none_iff {op : Operator} :
    cutAt? clause op = none ↔ (op.text <:+: clause → op.text <+: clause) := by
  constructor
  · intro hnone hoccurs
    by_contra hbegins
    obtain ⟨before, after, hcut⟩ := exists_cutAt?_eq_some hoccurs hbegins
    rw [hnone] at hcut
    cases hcut
  · intro hsigns
    by_cases hoccurs : op.text <:+: clause
    · obtain ⟨rest, rfl⟩ := hsigns hoccurs
      rw [cutAt?, Text.cut?_append_self]
    · exact cutAt?_eq_none hoccurs

theorem findSome?_cutAt?_eq_none_iff : Operator.symbolic.findSome? (cutAt? clause) = none ↔
    ∀ op ∈ Operator.symbolic, op.text <:+: clause → op.text <+: clause := by
  rw [List.findSome?_eq_none_iff]
  exact forall₂_congr fun op _ => cutAt?_eq_none_iff

theorem readList_eq_error_iff {op : Operator} {before after : Text} :
    readList aliases clause op before after = .error e ↔
      e = missingSide op clause ∧ (Text.trim before = [] ∨ Text.trim after = []) := by
  rw [readList]
  simp only [Bool.or_eq_true, List.isEmpty_iff]
  by_cases hside : Text.trim before = [] ∨ Text.trim after = []
  · rw [if_pos hside]
    exact ⟨fun h => ⟨(Except.error.inj h).symm, hside⟩, fun h => congrArg _ h.1.symm⟩
  · rw [if_neg hside]
    exact ⟨nofun, fun h => absurd h.2 hside⟩

/-- A clause is read at one list operator. -/
theorem ListAt.unique {op other : Operator} {before after first last : Text}
    (hlist : ListAt clause op before after) (hother : ListAt clause other first last) :
    op = other ∧ before = first ∧ after = last := by
  cases hlist with
  | notIn hcut =>
    cases hother with
    | notIn h => simpa [hcut] using h
    | isIn h _ => simp [hcut] at h
  | isIn hnot hcut =>
    cases hother with
    | notIn h => simp [hnot] at h
    | isIn _ h => simpa [hcut] using h

theorem read_eq_of_listAt {op : Operator} {before after : Text}
    (hblank : ¬ Text.isBlankText clause) (hlist : ListAt clause op before after) :
    read aliases clause = readList aliases clause op before after := by
  cases hlist with
  | notIn hcut => rw [read, if_neg hblank, hcut]
  | isIn hnot hcut => rw [read, if_neg hblank, hnot, hcut]

/-- A clause that has something in it is read at a list operator, or it has none. -/
theorem exists_listAt_or_not_isInfix (clause : Text) :
    (∃ op before after, ListAt clause op before after) ∨ ¬ Operator.isIn.token <:+: clause := by
  cases hnot : Text.cut? Operator.notIn.token clause with
  | some found => exact Or.inl ⟨_, found.1, found.2, .notIn hnot⟩
  | none =>
    cases hin : Text.cut? Operator.isIn.token clause with
    | some found => exact Or.inl ⟨_, found.1, found.2, .isIn hnot hin⟩
    | none => exact Or.inr (Text.cut?_eq_none_iff.mp hin)

theorem ListAt.isInfix {op : Operator} {before after : Text}
    (hlist : ListAt clause op before after) : Operator.isIn.token <:+: clause := by
  cases hlist with
  | notIn hcut =>
    refine Operator.isIn_token_isInfix.trans ⟨before, after, ?_⟩
    rw [Text.eq_append_of_cut?_eq_some hcut, List.append_assoc]
  | isIn hnot hcut =>
    refine ⟨before, after, ?_⟩
    rw [Text.eq_append_of_cut?_eq_some hcut, List.append_assoc]

/-- A clause without list operators fails if no operator made of signs is behind a field. -/
theorem read_eq_error_iff_of_not_isInfix (hblank : ¬ Text.isBlankText clause)
    (hlist : ¬ Operator.isIn.token <:+: clause) :
    read aliases clause = .error e ↔
      e = noOperator clause ∧
        ∀ op ∈ Operator.symbolic, op.text <:+: clause → op.text <+: clause := by
  rw [← findSome?_cutAt?_eq_none_iff]
  cases hfound : Operator.symbolic.findSome? (cutAt? clause) with
  | some found =>
    obtain ⟨op, before, after⟩ := found
    rw [read_of_findSome? hblank hlist hfound]
    simp
  | none =>
    have hnotIn : ¬ Operator.notIn.token <:+: clause :=
      fun hoccurs => hlist (Operator.isIn_token_isInfix.trans hoccurs)
    rw [read, if_neg hblank, Text.cut?_eq_none_iff.mpr hnotIn, Text.cut?_eq_none_iff.mpr hlist,
      hfound]
    exact ⟨fun h => ⟨(Except.error.inj h).symm, rfl⟩, fun h => congrArg _ h.1.symm⟩

/-- A clause is not read in these cases only, whatever the aliases are. -/
theorem read_eq_error_iff : read aliases clause = .error e ↔ Rejected clause e := by
  by_cases hblank : Text.isBlankText clause
  · rw [read, if_pos hblank]
    constructor
    · intro hfails
      rw [← Except.error.inj hfails]
      exact .empty hblank
    · intro hrejected
      cases hrejected with
      | empty _ => rfl
      | missingSide hnot _ _ => exact absurd hblank hnot
      | noOperator hnot _ _ => exact absurd hblank hnot
  · rcases exists_listAt_or_not_isInfix clause with ⟨op, before, after, hlist⟩ | hnone
    · rw [read_eq_of_listAt hblank hlist, readList_eq_error_iff]
      constructor
      · rintro ⟨rfl, hside⟩
        exact .missingSide hblank hlist hside
      · intro hrejected
        cases hrejected with
        | empty h => exact absurd h hblank
        | missingSide _ hother hside =>
          obtain ⟨rfl, rfl, rfl⟩ := hlist.unique hother
          exact ⟨rfl, hside⟩
        | noOperator _ hnot _ => exact absurd hlist.isInfix hnot
    · rw [read_eq_error_iff_of_not_isInfix hblank hnone]
      constructor
      · rintro ⟨rfl, hsigns⟩
        exact .noOperator hblank hnone hsigns
      · intro hrejected
        cases hrejected with
        | empty h => exact absurd h hblank
        | missingSide _ hlist _ => exact absurd hlist.isInfix hnone
        | noOperator _ _ hsigns => exact ⟨rfl, hsigns⟩

end RecordFilter.Clause
