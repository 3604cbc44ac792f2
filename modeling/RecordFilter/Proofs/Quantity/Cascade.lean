import RecordFilter.Proofs.Number.Digits
import RecordFilter.Proofs.Outcome
import RecordFilter.Quantity.Scalar

/-!
The first kind that accepts a text decides how the text is read.
-/

namespace RecordFilter.Scalar

/-- A text is read as a kind if no kind before it accepts the text. -/
theorem read_eq_of_readAs {t : Text} {kind : Kind} {s : Scalar} {before after : List Kind}
    (horder : order = before ++ kind :: after) (hread : readAs kind t = .ok s)
    (hbefore : ∀ other ∈ before, (readAs other t).toOption = none) : read t = s := by
  have hnone : before.findSome? (fun other => (readAs other t).toOption) = none :=
    List.findSome?_eq_none_iff.mpr hbefore
  rw [read, horder, List.findSome?_append, hnone, List.findSome?_cons, hread]
  rfl

/-- A text is kept as it is, or it is read as one of the kinds. -/
theorem read_cases (t : Text) :
    read t = .string t ∨ ∃ kind ∈ order, readAs kind t = .ok (read t) := by
  rw [read]
  cases hfound : order.findSome? fun kind => (readAs kind t).toOption with
  | none => exact Or.inl rfl
  | some s =>
    obtain ⟨kind, hmem, hread⟩ := List.exists_of_findSome?_eq_some hfound
    exact Or.inr ⟨kind, hmem, toOption_eq_some_iff.mp hread⟩

theorem kind_of_readAs {t : Text} {kind : Kind} {s : Scalar} (hkind : kind ∈ order)
    (hread : readAs kind t = .ok s) : s.kind = kind := by
  simp only [order, List.mem_cons, List.not_mem_nil, or_false] at hkind
  rcases hkind with rfl | rfl | rfl | rfl | rfl | rfl <;>
    obtain ⟨_, -, rfl⟩ := map_eq_ok_iff.mp hread <;> rfl

/-- What a text is read as, it is read as by its kind. -/
theorem readAs_kind_of_read {t : Text} (hkind : (read t).kind ∈ order) :
    readAs (read t).kind t = .ok (read t) := by
  rcases read_cases t with hread | ⟨kind, hmem, hread⟩
  · rw [hread] at hkind
    exact absurd hkind (by decide : ¬ Kind.string ∈ order)
  · rwa [kind_of_readAs hmem hread]

/-- A text that is read as a text is kept as it is, since no kind has accepted it. -/
theorem read_eq_string_of_kind {t : Text} (hkind : (read t).kind = .string) :
    read t = .string t := by
  rcases read_cases t with hread | ⟨kind, hmem, hread⟩
  · exact hread
  · rw [kind_of_readAs hmem hread] at hkind
    rw [hkind] at hmem
    exact absurd hmem (by decide)

/-- The digits of an integer are read as the integer. -/
theorem read_ofInt {i : Int} (hi : i.natAbs < 10 ^ digitLimit) :
    read (Text.ofInt i) = .integer i := by
  have horder : order = [] ++ .integer :: order.tail := rfl
  refine read_eq_of_readAs horder ?_ (by simp)
  rw [readAs, Quantity.readInteger_ofInt hi]
  rfl

end RecordFilter.Scalar
