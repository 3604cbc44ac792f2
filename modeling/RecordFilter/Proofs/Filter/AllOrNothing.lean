import RecordFilter.Filter.Basic
import RecordFilter.Proofs.Clause.Rejection
import RecordFilter.Proofs.Outcome

/-!
A filter is read as a whole or not at all, and it is known which clause is to blame.
-/

namespace RecordFilter

/-- A text is read as one expression for each of its clauses, in their order and with the logic, name
    and description that are asked for, or it is rejected with the fault of its first clause that is
    not read. No other fault arises, and a clause is rejected for its shape only: there is no value
    behind an operator made of signs, however long or great, with which a clause is not read. -/
theorem Filter.parse_all_or_first_rejected (aliases : AliasTable) (text logic : Text)
    (name description : Option Text) :
    ((∃ expressions,
        Filter.parse aliases text logic name description =
          .ok ⟨expressions, logic, name, description⟩ ∧
        List.Forall₂ (fun clause e => Clause.read aliases clause = .ok e) (Clause.split text)
          expressions) ∨
      ∃ before clause after e, Clause.split text = before ++ clause :: after ∧
        (∀ other ∈ before, ∃ expression, Clause.read aliases other = .ok expression) ∧
        Clause.read aliases clause = .error e ∧ e.clause = some clause ∧
        Filter.parse aliases text logic name description = .error e) ∧
    ∀ clause e, Clause.read aliases clause = .error e ↔ Clause.Rejected clause e := by
  refine ⟨?_, fun clause e => Clause.read_eq_error_iff⟩
  cases hread : Clause.readAll aliases text with
  | ok expressions =>
    refine Or.inl ⟨expressions, ?_, mapM_eq_ok_iff.mp hread⟩
    rw [Filter.parse, hread]
    rfl
  | error e =>
    obtain ⟨before, clause, after, hsplit, hbefore, hclause⟩ := mapM_eq_error_iff.mp hread
    have hshown : e.clause = some clause := (Clause.read_eq_error_iff.mp hclause).clause_eq
    refine Or.inr ⟨before, clause, after, e, hsplit, hbefore, hclause, hshown, ?_⟩
    rw [Filter.parse, hread]
    rfl

end RecordFilter
