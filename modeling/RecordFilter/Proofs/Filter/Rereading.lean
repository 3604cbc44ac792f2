import RecordFilter.Proofs.Filter.RoundTrip

/-!
Filters that are printed and read again: whether they ask for the same record keys as before.

A key that is written in a clause is looked up like any name, so the clause is only about that key if
it is the key of a lasting name.
-/

namespace RecordFilter

open AliasTable

/-- The standard key of `node` is no alias, and loses its inner capital. -/
theorem AliasTable.canonical_nodeList_ne :
    standard.canonical (standard.canonical "node".toList) ≠ standard.canonical "node".toList := by
  decide

/-- A comparison whose field is a standard key is about that key exactly if the key comes from a
    lasting name. -/
private theorem Clause.exists_read_key {name v : Text} {op : Operator}
    (hop : op ∈ Operator.symbolic) (hne : standard.canonical name ≠ [])
    (hname : Word (standard.canonical name)) (hv : Word v) :
    ∃ e, read .standard (standard.canonical name ++ (op.text ++ v)) = .ok e ∧
      (e.field = standard.canonical name ↔ Lasting (Text.lower name)) :=
  ⟨_, read_comparison hop hne hname hv, canonical_canonical_eq_iff name⟩

private theorem Expression.Legible.reread_field_eq_iff {e : Expression} (he : e.Legible) :
    e.reread.field = e.field ↔
      ∃ name, e.field = standard.canonical name ∧ Lasting (Text.lower name) := by
  constructor
  · intro hsame
    obtain ⟨name, hname⟩ := he.field_key
    refine ⟨name, hname, (canonical_canonical_eq_iff name).mp ?_⟩
    rw [← hname, ← reread_field, hsame]
  · rintro ⟨name, hname, hlasting⟩
    rw [reread_field, hname]
    exact (canonical_canonical_eq_iff name).mpr hlasting

/-- The standard key of a name is its own key exactly if the name is a lasting one. So a comparison
    with a key written as it stands is about that key for the lasting names only, and a filter that
    is printed and parsed again asks for the same keys exactly if all of them come from such names. -/
theorem Filter.keys_last_iff :
    (∀ field, standard.canonical (standard.canonical field) = standard.canonical field ↔
        Lasting (Text.lower field)) ∧
      (∀ (name v : Text), ∀ op ∈ Operator.symbolic, standard.canonical name ≠ [] →
        Clause.Word (standard.canonical name) → Clause.Word v →
          ∃ e, Clause.read .standard (standard.canonical name ++ (op.text ++ v)) = .ok e ∧
            (e.field = standard.canonical name ↔ Lasting (Text.lower name))) ∧
      ∀ (f : Filter) (logic : Text), (∀ e ∈ f.expressions, e.Legible) →
        ∃ text again, f.text = .ok text ∧ Filter.parse .standard text logic = .ok again ∧
          (again.expressions.map Expression.field = f.expressions.map Expression.field ↔
            ∀ e ∈ f.expressions, ∃ name,
              e.field = standard.canonical name ∧ Lasting (Text.lower name)) := by
  refine ⟨canonical_canonical_eq_iff, fun name v op hop => Clause.exists_read_key hop,
    fun f logic hlegible => ?_⟩
  obtain ⟨text, htext, hagain⟩ := Filter.parse_text_of_legible logic hlegible
  refine ⟨text, _, htext, hagain, ?_⟩
  rw [List.map_map, List.map_inj_left]
  exact forall₂_congr fun e he => (hlegible e he).reread_field_eq_iff

/-- The key `State` is read as itself, also for the name `status`, but `NodeList` is not: a filter of
    both asks for another key when it is read from its text. -/
theorem Filter.keys_last_of_state_and_nodes :
    let f : Filter := { expressions := [⟨"State".toList, .equals, .text "up".toList, .string⟩,
      ⟨"NodeList".toList, .contains, .text "n1".toList, .string⟩] }
    (∃ e, Clause.read .standard "State=up".toList = .ok e ∧ e.field = "State".toList) ∧
      ∃ text again, f.text = .ok text ∧ Filter.parse .standard text andLogic = .ok again ∧
        again.expressions.map Expression.field ≠ f.expressions.map Expression.field := by
  intro f
  have hword : ∀ t ∈ ["State".toList, "up".toList, "NodeList".toList, "n1".toList],
      Clause.Word t := by
    intro t ht
    simp only [List.mem_cons, List.not_mem_nil, or_false] at ht
    rcases ht with rfl | rfl | rfl | rfl <;>
      exact ⟨⟨by decide, by decide, by decide⟩, by decide⟩
  have hlegible : ∀ e ∈ f.expressions, e.Legible := by
    intro e he
    simp only [f, List.mem_cons, List.not_mem_nil, or_false] at he
    rcases he with rfl | rfl
    · exact ⟨by decide, ⟨"status".toList, by decide⟩, hword _ (by simp),
        .inl ⟨by decide, nofun, "up".toList, hword _ (by simp), rfl⟩⟩
    · exact ⟨by decide, ⟨"node".toList, by decide⟩, hword _ (by simp),
        .inl ⟨by decide, nofun, "n1".toList, hword _ (by simp), rfl⟩⟩
  obtain ⟨hkeys, hclauses, hfilters⟩ := keys_last_iff
  constructor
  · obtain ⟨e, hread, hlasting⟩ := hclauses "status".toList "up".toList .equals (by decide)
      (by decide) (hword "State".toList (by simp)) (hword _ (by simp))
    exact ⟨e, hread, hlasting.mpr (by decide)⟩
  · obtain ⟨text, again, htext, hparse, hsame⟩ := hfilters f andLogic hlegible
    refine ⟨text, again, htext, hparse, fun hall => ?_⟩
    obtain ⟨name, hname, hlasting⟩ := hsame.mp hall _ (List.mem_cons_of_mem _ List.mem_cons_self)
    have hstands := (hkeys name).mpr hlasting
    rw [← hname] at hstands
    exact absurd hstands (by decide)

end RecordFilter
