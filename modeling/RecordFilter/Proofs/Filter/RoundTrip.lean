import RecordFilter.Proofs.Clause.Printing
import RecordFilter.Proofs.Outcome

/-!
A filter of printable expressions is read from its own text.
-/

namespace RecordFilter

open Clause

private theorem exists_all_denote {expressions : List Expression}
    (hlegible : ∀ e ∈ expressions, e.Legible) :
    ∃ parts : List Parts, List.Forall₂ Parts.Denotes parts expressions := by
  induction expressions with
  | nil => exact ⟨[], .nil⟩
  | cons e expressions ih =>
    obtain ⟨p, hp⟩ := Parts.exists_denotes (hlegible e List.mem_cons_self)
    obtain ⟨parts, hparts⟩ := ih fun other hother => hlegible other (List.mem_cons_of_mem _ hother)
    exact ⟨p :: parts, .cons hp hparts⟩

private theorem mapM_text_of_denotes {parts : List Parts} {expressions : List Expression}
    (hparts : List.Forall₂ Parts.Denotes parts expressions) :
    expressions.mapM Expression.text = .ok (parts.map Parts.text) := by
  rw [mapM_eq_ok_iff, List.forall₂_map_right_iff]
  exact List.Forall₂.flip (hparts.imp fun _ _ hp => hp.text)

private theorem mapM_read_of_denotes {parts : List Parts} {expressions : List Expression}
    (hparts : List.Forall₂ Parts.Denotes parts expressions) :
    (parts.map Parts.text).mapM (read .standard) = .ok (expressions.map Expression.reread) := by
  rw [mapM_eq_ok_iff, List.forall₂_map_left_iff, List.forall₂_map_right_iff]
  exact hparts.imp fun _ _ hp => hp.read

private theorem split_text_of_denotes {parts : List Parts} {expressions : List Expression}
    (hparts : List.Forall₂ Parts.Denotes parts expressions) :
    split (Text.join [' '] (parts.map Parts.text)) = parts.map Parts.text := by
  have hdenotes : ∀ p ∈ parts, ∃ e ∈ expressions, p.Denotes e :=
    exists_mem_of_forall₂ (List.Forall₂.flip hparts)
  apply Parts.split_join
  · intro p hp
    obtain ⟨e, -, he⟩ := hdenotes p hp
    exact he.separate
  · intro p hp
    obtain ⟨e, -, he⟩ := hdenotes p hp
    exact he.unmarked
  · intro p hp
    obtain ⟨e, -, he⟩ := hdenotes p hp
    exact he.isOpen

/-- The text of a filter whose expressions are legible is read as what the text of each is read as, in
    order and with the logic that is asked for. No clause is read as a part of another one, since
    each ends at the space before the next. -/
theorem Filter.parse_text_of_legible {f : Filter} (logic : Text)
    (hlegible : ∀ e ∈ f.expressions, e.Legible) :
    ∃ text, f.text = .ok text ∧ Filter.parse .standard text logic =
      .ok { expressions := f.expressions.map Expression.reread, logic } := by
  obtain ⟨parts, hparts⟩ := exists_all_denote hlegible
  refine ⟨Text.join [' '] (parts.map Parts.text), ?_, ?_⟩
  · rw [Filter.text, mapM_text_of_denotes hparts]
    rfl
  · rw [Filter.parse, readAll, split_text_of_denotes hparts, mapM_read_of_denotes hparts]
    rfl

/-- The text of a filter whose expressions are printable is read as these expressions, in order and
    with the logic that is asked for. -/
theorem Filter.parse_text_of_printable {f : Filter} (logic : Text)
    (hprintable : ∀ e ∈ f.expressions, e.Printable) :
    ∃ text, f.text = .ok text ∧
      Filter.parse .standard text logic = .ok { expressions := f.expressions, logic } := by
  have hsame : f.expressions.map Expression.reread = f.expressions :=
    (List.map_congr_left fun e he => (hprintable e he).reread_eq).trans (List.map_id' _)
  have hagain := Filter.parse_text_of_legible logic fun e he => (hprintable e he).legible
  rwa [hsame] at hagain

/-- One expression of every printable kind, an empty text and both list operators among them. -/
theorem Filter.parse_text_of_every_kind :
    let f : Filter := { expressions := [
      ⟨"Name".toList, .contains, .text [], .string⟩,
      ⟨"CPUs".toList, .greaterEqual, .integer (-12), .integer⟩,
      ⟨"A_".toList, .isIn, .tuple [.text "a".toList, .text "b=c".toList], .stringList⟩,
      ⟨"Held".toList, .notEquals, .boolean true, .boolean⟩,
      ⟨"TimeLimit".toList, .less, .duration ⟨93784000000, by decide⟩, .clusterDuration⟩,
      ⟨"State".toList, .notIn, .tuple [.text []], .stringList⟩,
      ⟨"User".toList, .pattern, .text "^al.ce$".toList, .string⟩] }
    let text := "Name~ CPUs>=-12 A_ in (a,b=c) Held!=true ".toList ++
      "TimeLimit<1-02:03:04 State not in () User=~^al.ce$".toList
    f.text = .ok text ∧
      Filter.parse .standard text Filter.orLogic =
        .ok { expressions := f.expressions, logic := Filter.orLogic } := by
  intro f text
  have hword : ∀ t ∈ ["Name".toList, "CPUs".toList, "A_".toList, "Held".toList,
      "TimeLimit".toList, "State".toList, "User".toList, [], "^al.ce$".toList], Word t := by
    intro t ht
    simp only [List.mem_cons, List.not_mem_nil, or_false] at ht
    rcases ht with rfl | rfl | rfl | rfl | rfl | rfl | rfl | rfl | rfl <;>
      exact ⟨⟨by decide, by decide, by decide⟩, by decide⟩
  have hitem : ∀ t ∈ ["a".toList, "b=c".toList, []], Item t := by
    intro t ht
    simp only [List.mem_cons, List.not_mem_nil, or_false] at ht
    rcases ht with rfl | rfl | rfl <;> exact ⟨⟨by decide, by decide, by decide⟩, by decide⟩
  have hprintable : ∀ e ∈ f.expressions, e.Printable := by
    intro e he
    simp only [f, List.mem_cons, List.not_mem_nil, or_false] at he
    rcases he with rfl | rfl | rfl | rfl | rfl | rfl | rfl <;>
      refine ⟨by decide, by decide, hword _ (by simp), ?_⟩
    · exact Or.inl ⟨by decide, .string (hword _ (by simp)) (by decide)⟩
    · exact Or.inl ⟨by decide, .integer (Nat.lt_of_lt_of_le (by decide : 12 < 10 ^ 2)
        (Nat.pow_le_pow_right (by decide) (by decide)))⟩
    · exact Or.inr ⟨by decide, .texts ["a".toList, "b=c".toList] (by simp) fun t ht =>
        hitem t (List.mem_append_left [[]] ht)⟩
    · exact Or.inl ⟨by decide, .boolean true⟩
    · exact Or.inl ⟨by decide, .clusterDuration ⟨by decide, by decide⟩⟩
    · exact Or.inr ⟨by decide, .texts [[]] (by simp) fun t ht =>
        hitem t (List.mem_append_right ["a".toList, "b=c".toList] ht)⟩
    · exact Or.inl ⟨by decide, .string (hword _ (by simp)) (by decide)⟩
  obtain ⟨found, htext, hparse⟩ := Filter.parse_text_of_printable Filter.orLogic hprintable
  have hfound : f.text = .ok text := by decide +kernel
  rw [hfound] at htext
  rw [← Except.ok.inj htext] at hparse
  exact ⟨hfound, hparse⟩

end RecordFilter
