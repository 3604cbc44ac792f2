import RecordFilter.Filter.Description
import RecordFilter.Proofs.Clause.Values
import RecordFilter.Proofs.Filter.Interchange
import RecordFilter.Proofs.Json.Data

/-!
Filters as plain data: every filter that is read from a text has a description, which is data of a
height that does not depend on the text.
-/

namespace RecordFilter

/-- The value of a comparison is described by one value that is no list. -/
theorem Scalar.exists_plain (t : Text) :
    ∃ v, (Value.ofScalar (read t)).plain = .ok v ∧ Json.IsData v ∧ Json.height v = 1 := by
  have hconvertible := convertible_read t
  cases hread : read t with
  | integer i =>
    rw [hread] at hconvertible
    cases hconvertible with
    | integer hi => exact ⟨_, rfl, .plain (.integer hi), rfl⟩
  | memory n =>
    rw [hread] at hconvertible
    cases hconvertible with
    | size hn => exact ⟨_, rfl, .plain (.integer (lt_pow_digitLimit hn)), rfl⟩
  | float x =>
    refine ⟨_, rfl, ?_⟩
    split
    · exact ⟨.plain (.float x), rfl⟩
    · exact ⟨.text _, rfl⟩
  | boolean b => exact ⟨_, rfl, .plain (.boolean b), rfl⟩
  | clusterDuration d | duration d => exact ⟨_, rfl, .text _, rfl⟩
  | string u => exact ⟨_, rfl, .text u, rfl⟩

namespace Expression

variable {e : Expression}

/-- A value that is read is described by a value of its own, or by a list of texts. -/
theorem Parsed.exists_plain (he : e.Parsed) :
    ∃ v, e.value.plain = .ok v ∧ Json.IsData v ∧ Json.height v ≤ 2 := by
  obtain ⟨aliases, clause, hread⟩ := he
  rcases Clause.read_eq_ok_cases hread with
    ⟨-, op, before, after, -, hlist⟩ | ⟨-, op, before, after, -, rfl⟩
  · rw [Clause.eq_of_readList_eq_ok hlist]
    exact ⟨_, rfl, Json.isData_texts _, Json.height_texts_le _⟩
  · obtain ⟨v, hv, hdata, hheight⟩ := Scalar.exists_plain (Clause.unquote after.trim)
    exact ⟨v, hv, hdata, by omega⟩

theorem Parsed.exists_described (he : e.Parsed) :
    ∃ d, e.described = .ok d ∧ Json.IsData d ∧ Json.height d ≤ 3 := by
  obtain ⟨v, hv, hdata, hheight⟩ := he.exists_plain
  have hnames : (["field", "operator", "value", "kind"].map String.toList).Nodup := by decide
  rw [described, hv]
  refine ⟨_, rfl, .dict hnames ?_,
    Nat.succ_le_succ (Json.heightOfEntries_le_iff.mpr ?_)⟩
  · simp only [List.forall_mem_cons]
    exact ⟨.text _, .text _, hdata, .text _, nofun⟩
  · have hone : 1 ≤ 2 := by decide
    simp only [List.forall_mem_cons]
    exact ⟨hone, hone, hheight, hone, nofun⟩

end Expression

/-- Every filter that is read from a text has a description that can be written. -/
theorem Filter.exists_described_of_parse {aliases : AliasTable} {text logic : Text}
    {name description : Option Text} {f : Filter}
    (hparse : Filter.parse aliases text logic name description = .ok f) :
    ∃ d, f.described = .ok d ∧ Json.IsData d ∧ Json.height d ≤ 5 := by
  have hclauses : ∀ e ∈ f.expressions, ∃ d, e.described = .ok d ∧ Json.IsData d ∧
      Json.height d ≤ 3 := fun e he => (parsed_of_parse hparse e he).exists_described
  obtain ⟨ds, hds⟩ := exists_mapM_eq_ok_iff.mpr fun e he => (hclauses e he).imp fun _ => And.left
  have hrow : ∀ d ∈ ds, Json.IsData d ∧ Json.height d ≤ 3 := by
    intro d hd
    obtain ⟨e, he, hsame⟩ := exists_mem_of_forall₂ (mapM_eq_ok_iff.mp hds) d hd
    obtain ⟨other, hother, hdata⟩ := hclauses e he
    rwa [Except.ok.inj (hsame.symm.trans hother)]
  have hnames : (["name", "description", "logic", "expressions"].map String.toList).Nodup := by
    decide
  rw [described, hds]
  refine ⟨_, rfl, .dict hnames ?_,
    Nat.succ_le_succ (Json.heightOfEntries_le_iff.mpr ?_)⟩
  · simp only [List.forall_mem_cons]
    exact ⟨Json.isData_ofText? _, Json.isData_ofText? _, .text _,
      .list fun d hd => (hrow d hd).1, nofun⟩
  · have hone : 1 ≤ 4 := by decide
    have hlist : Json.height (.list ds) ≤ 4 :=
      Nat.succ_le_succ (Json.heightOfAll_le_iff.mpr fun d hd => (hrow d hd).2)
    simp only [List.forall_mem_cons, Json.height_ofText?]
    exact ⟨hone, hone, hone, hlist, nofun⟩

end RecordFilter
