import RecordFilter.Proofs.Clause.Sameness
import RecordFilter.Proofs.Outcome

/-!
Filters with the same expressions: they are interchangeable, whatever texts and aliases they were
read with.
-/

namespace RecordFilter

namespace Filter

variable {aliases : AliasTable} {s logic : Text} {name description : Option Text} {f g : Filter}

theorem parsed_of_parse (hparse : parse aliases s logic name description = .ok f) :
    ∀ e ∈ f.expressions, e.Parsed := by
  obtain ⟨expressions, hread, rfl⟩ := map_eq_ok_iff.mp hparse
  intro e he
  obtain ⟨clause, -, hclause⟩ := exists_mem_of_forall₂ (mapM_eq_ok_iff.mp hread) e he
  exact ⟨aliases, clause, hclause⟩

end Filter

namespace Expression

variable {α : Type} {view : Expression → α}

/-- What does not depend on the sign of a zero is the same for expressions that are the same. -/
theorem Parsed.view_eq_of_same (hview : ∀ e : Expression, view e.settled = view e)
    {e f : Expression} (he : e.Parsed) (hf : f.Parsed) (hsame : e.same f) : view e = view f := by
  rw [← hview e, (he.same_iff hf).mp hsame, hview f]

/-- Rows of expressions that are the same, one by one. -/
theorem map_eq_of_sameAll {es fs : List Expression}
    (hview : ∀ e ∈ es, ∀ f ∈ fs, e.same f → view e = view f) (hsame : sameAll es fs) :
    es.map view = fs.map view := by
  induction es generalizing fs with
  | nil =>
    cases fs with
    | nil => rfl
    | cons f fs => cases hsame
  | cons e es ih =>
    cases fs with
    | nil => cases hsame
    | cons f fs =>
      rw [sameAll, Bool.and_eq_true] at hsame
      have hfirst := hview e List.mem_cons_self f List.mem_cons_self hsame.1
      have hrest := ih (fun e he f hf =>
        hview e (List.mem_cons_of_mem _ he) f (List.mem_cons_of_mem _ hf)) hsame.2
      rw [List.map_cons, List.map_cons, hfirst, hrest]

end Expression

namespace Filter

variable {f g : Filter}

theorem text_eq_of_map_text
    (htext : f.expressions.map Expression.text = g.expressions.map Expression.text) :
    f.text = g.text := by
  have hrow : ∀ es : List Expression, es.mapM Expression.text = (es.map Expression.text).mapM id :=
    fun _ => (List.mapM_map (f := Expression.text) (g := id)).symm
  rw [text, text, hrow, htext, ← hrow]

/-- Filters of one logic are met by the same records if their expressions are, one by one. -/
theorem holds_eq_of_map_holds
    (hholds : f.expressions.map Expression.holds = g.expressions.map Expression.holds)
    (hlogic : f.logic = g.logic) (record : Record) : f.holds record = g.holds record := by
  have hempty : f.isEmpty = g.isEmpty := by
    have hmapped := congrArg List.isEmpty hholds
    rwa [List.isEmpty_map, List.isEmpty_map] at hmapped
  rw [holds, holds, hempty, hholds, isAny, isAny, hlogic]

/-- Filters that are read with the same expressions have expressions with the same hashes and texts,
    and under one logic they are met by the same records. To be the same is an equivalence of the
    expressions that are read, those with an undefined number among them. -/
theorem interchangeable_of_sameAll :
    (∀ {aliases others : AliasTable} {s t logic logic' : Text}
        {name name' description description' : Option Text} {f g : Filter},
        parse aliases s logic name description = .ok f →
        parse others t logic' name' description' = .ok g →
        Expression.sameAll f.expressions g.expressions →
          (∀ h, (∀ e ∈ f.expressions, ∃ n, e.hash? h = some n) ∧
              f.expressions.map (Expression.hash? h) = g.expressions.map (Expression.hash? h)) ∧
            f.expressions.map Expression.text = g.expressions.map Expression.text ∧
            f.text = g.text ∧
            (f.logic = g.logic → ∀ record, f.holds record = g.holds record)) ∧
      Equivalence fun e f : { e : Expression // e.Parsed } => e.val.same f.val := by
  refine ⟨?_, Expression.equivalence_same⟩
  intro aliases others s t logic logic' name name' description description' f g hf hg hsame
  have hparsed := parsed_of_parse hf
  have hothers := parsed_of_parse hg
  have hhash : ∀ h : Hashing,
      f.expressions.map (Expression.hash? h) = g.expressions.map (Expression.hash? h) := fun h =>
    Expression.map_eq_of_sameAll (fun _ _ _ _ => Expression.hash?_eq_of_same h) hsame
  have htext : f.expressions.map Expression.text = g.expressions.map Expression.text :=
    Expression.map_eq_of_sameAll (fun e he e' he' =>
      (hparsed e he).view_eq_of_same Expression.text_settled (hothers e' he')) hsame
  have hholds : f.expressions.map Expression.holds = g.expressions.map Expression.holds :=
    Expression.map_eq_of_sameAll (fun e he e' he' =>
      (hparsed e he).view_eq_of_same (fun e => funext e.holds_settled) (hothers e' he')) hsame
  exact ⟨fun h => ⟨fun e he => (hparsed e he).exists_hash? h, hhash h⟩, htext,
    text_eq_of_map_text htext, holds_eq_of_map_holds hholds⟩

/-- An undefined number and a zero with any sign, once under an alias. -/
theorem interchangeable_of_undefined_and_zero :
    let aliases := AliasTable.standard.extend [("L".toList, "Load".toList)] false
    ∃ f g, parse .standard "load=nan x<=-0.0".toList orLogic = .ok f ∧
      parse aliases "l=NaN x<=0.0".toList orLogic = .ok g ∧
      f.expressions.map (·.value) ≠ g.expressions.map (·.value) ∧
      Expression.sameAll f.expressions g.expressions ∧ f.text = g.text ∧
      ∀ record, f.holds record = g.holds record := by
  intro aliases
  have hf : parse .standard "load=nan x<=-0.0".toList orLogic =
    .ok { expressions := [⟨"Load".toList, .equals, .float .nan, .float⟩,
      ⟨"X".toList, .lessEqual, .float (.zero true), .float⟩], logic := orLogic } := rfl
  have hg : parse aliases "l=NaN x<=0.0".toList orLogic =
    .ok { expressions := [⟨"Load".toList, .equals, .float .nan, .float⟩,
      ⟨"X".toList, .lessEqual, .float (.zero false), .float⟩], logic := orLogic } := rfl
  obtain ⟨-, -, htext, hholds⟩ := interchangeable_of_sameAll.1 hf hg (by decide)
  refine ⟨_, _, hf, hg, ?_, by decide, htext, hholds rfl⟩
  simp [Binary64.zero]

end Filter

end RecordFilter
