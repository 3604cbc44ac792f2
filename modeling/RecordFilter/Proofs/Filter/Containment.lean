import RecordFilter.Filter.Evaluation
import RecordFilter.Proofs.Text.Search
import RecordFilter.Proofs.Text.Sigma

/-!
Containment: which texts are found in the texts that hold them.

Containment disregards letter case, for which it compares the small forms of both texts. A text
therefore contains all of its parts, apart from those with a capital sigma at one of their ends.
-/

namespace RecordFilter

theorem Text.occursIn_iff {pattern text : Text} : occursIn pattern text ↔ pattern <:+: text := by
  rw [occursIn, Option.isSome_iff_ne_none, Ne, cut?_eq_none_iff, not_not]

namespace Operator

variable {a b : Value} {shown wanted : Text}

theorem holds_contains (ha : a.display = .ok shown) (hb : b.display = .ok wanted) :
    contains.holds a b = .ok (Text.occursIn (Text.lower wanted) (Text.lower shown)) := by
  simp only [holds, includes, ha, hb]
  rfl

/-- A value contains another one if the small form of its text holds that of the other text. -/
theorem contains_iff (ha : a.display = .ok shown) (hb : b.display = .ok wanted) :
    contains.holds a b = .ok true ∧ notContains.holds a b = .ok false ↔
      Text.lower wanted <:+: Text.lower shown := by
  have hcontains := holds_contains ha hb
  have hnot : notContains.holds a b = negate (contains.holds a b) := rfl
  rw [hnot, hcontains, ← Text.occursIn_iff]
  cases Text.occursIn (Text.lower wanted) (Text.lower shown) <;> decide

/-- A value whose text holds another one contains it, unless a capital sigma at an end of that text
    becomes another small sigma in this place than at the end of a text. A text that is contained in
    every text that holds it is one that neither begins nor ends in such a capital sigma. -/
theorem contains_literal_iff (hb : b.display = .ok wanted) :
    (∀ a before after, a.display = .ok (before ++ wanted ++ after) →
      ¬ Text.TurnsSigma before wanted after →
      contains.holds a b = .ok true ∧ notContains.holds a b = .ok false) ∧
    ((∀ a shown, a.display = .ok shown → wanted <:+: shown →
      contains.holds a b = .ok true ∧ notContains.holds a b = .ok false) ↔
        ¬ Text.EndsInSigma wanted) := by
  refine ⟨fun a before after ha hturns => ?_, ?_⟩
  · exact (contains_iff ha hb).mpr (Text.isInfix_lower_of_not_turnsSigma hturns)
  · rw [← Text.isInfix_lower_iff]
    constructor
    · intro hall before after
      have ha : (Value.text (before ++ wanted ++ after)).display =
        .ok (before ++ wanted ++ after) := rfl
      exact (contains_iff ha hb).mp (hall _ _ ha (List.infix_append _ _ _))
    · rintro hall a - ha ⟨before, after, rfl⟩
      exact (contains_iff ha hb).mpr (hall before after)

/-- A capital sigma is contained in a text that begins with it, and not in one that ends with it. -/
theorem contains_literal_of_sigma :
    let sigma : Value := .text "Σ".toList
    contains.holds (.text "ΣΑ".toList) sigma = .ok true ∧
      contains.holds (.text "ΑΣ".toList) sigma = .ok false ∧
      Text.EndsInSigma "Σ".toList := by
  intro sigma
  obtain ⟨hplace, hevery⟩ := contains_literal_iff (b := sigma) rfl
  have hlost : contains.holds (.text "ΑΣ".toList) sigma = .ok false := by decide
  refine ⟨?_, hlost, ?_⟩
  · have hturns : ¬ Text.TurnsSigma [] "Σ".toList "Α".toList :=
      Text.lowerWithin_eq_lower_iff.mp (by decide)
    exact (hplace (.text "ΣΑ".toList) [] "Α".toList rfl hturns).1
  · by_contra hnot
    have hfound := (hevery.mpr hnot (.text "ΑΣ".toList) _ rfl ⟨['Α'], [], rfl⟩).1
    rw [hlost] at hfound
    cases hfound

end Operator

end RecordFilter
