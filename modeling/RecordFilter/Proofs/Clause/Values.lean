import RecordFilter.Filter.Basic
import RecordFilter.Proofs.Clause.Printing
import RecordFilter.Proofs.Clause.Reading
import RecordFilter.Proofs.Number.Digits
import RecordFilter.Proofs.Number.Nearest
import RecordFilter.Proofs.Outcome
import RecordFilter.Proofs.Quantity.Cascade
import RecordFilter.Proofs.Value.Display

/-!
The values that clauses are read as: whatever text is read, the value can be written out, and so
can the clause.
-/

namespace RecordFilter

namespace Quantity

theorem natAbs_lt_of_readInteger {t : Text} {i : Int} (hread : readInteger t = .ok i) :
    i.natAbs < 10 ^ digitLimit := by
  rw [readInteger] at hread
  split at hread
  · cases hread
  · rename_i form hform
    split at hread
    · rename_i hlength
      have hvalue : i.natAbs = Text.ofDigits form.digits := by
        rw [← Except.ok.inj hread, Numeral.IntegerForm.value]
        split <;> omega
      rw [hvalue]
      exact Nat.lt_of_lt_of_le (Text.ofDigits_lt (Numeral.isPlainDigit_of_read? hform))
        (Nat.pow_le_pow_right (by decide) hlength)
    · cases hread

/-- A size is the whole part of a floating point number. -/
theorem exists_truncate?_of_readSize {t : Text} {n : Int} (hread : readSize t = .ok n) :
    ∃ x : Binary64, x.truncate? = some n := by
  rw [readSize] at hread
  split at hread
  · cases hread
  · split at hread
    · cases hread
    · rename_i hbytes
      rw [← Except.ok.inj hread]
      exact ⟨_, hbytes⟩

theorem natAbs_lt_of_readSize {t : Text} {n : Int} (hread : readSize t = .ok n) :
    n.natAbs < Binary64.integerLimit := by
  obtain ⟨x, hx⟩ := exists_truncate?_of_readSize hread
  exact Binary64.natAbs_lt_of_truncate? hx

theorem representable_of_readSize {t : Text} {n : Int} (hread : readSize t = .ok n) :
    Binary64.Representable (n.natAbs * Binary64.scale) := by
  obtain ⟨x, hx⟩ := exists_truncate?_of_readSize hread
  exact Binary64.representable_of_truncate? hx

end Quantity

namespace Scalar

theorem convertible_of_readAs {kind : Kind} {t : Text} {s : Scalar}
    (hread : readAs kind t = .ok s) : (Value.ofScalar s).Convertible := by
  cases kind with
  | integer =>
    obtain ⟨i, hi, rfl⟩ := map_eq_ok_iff.mp hread
    exact .integer (Quantity.natAbs_lt_of_readInteger hi)
  | memory =>
    obtain ⟨n, hn, rfl⟩ := map_eq_ok_iff.mp hread
    exact .size (Quantity.natAbs_lt_of_readSize hn)
  | float =>
    obtain ⟨x, -, rfl⟩ := map_eq_ok_iff.mp hread
    exact .float x
  | boolean =>
    obtain ⟨b, -, rfl⟩ := map_eq_ok_iff.mp hread
    exact .boolean b
  | clusterDuration | duration =>
    obtain ⟨d, -, rfl⟩ := map_eq_ok_iff.mp hread
    exact .duration d
  | string | stringList =>
    rw [← Except.ok.inj hread]
    exact .text t

theorem convertible_read (t : Text) : (Value.ofScalar (read t)).Convertible := by
  rcases read_cases t with hread | ⟨kind, -, hread⟩
  · rw [hread]
    exact .text t
  · exact convertible_of_readAs hread

theorem writable_read (t : Text) : (Value.ofScalar (read t)).Writable where
  convertible := convertible_read t
  shallow := by
    rw [Value.TooDeep, Json.height_ofScalar]
    decide

end Scalar

/-- Every clause that is read can be written out. -/
theorem Clause.exists_text_of_read {aliases : AliasTable} {clause : Text} {e : Expression}
    (hread : read aliases clause = .ok e) : ∃ t, e.text = .ok t := by
  rcases read_eq_ok_cases hread with
    ⟨-, op, before, after, -, hlist⟩ | ⟨-, op, before, after, -, rfl⟩
  · rw [eq_of_readList_eq_ok hlist]
    simp only [Expression.text, Value.texts?_map_text]
    exact ⟨_, rfl⟩
  · obtain ⟨shown, hshown⟩ := (Scalar.writable_read (unquote (Text.trim after))).exists_display
    refine ⟨_, Expression.text_of_display (e := readPair aliases op before after)
      (fun items hitems => ?_) hshown⟩
    rw [readPair_eq_comparing, Expression.comparing] at hitems
    cases hscalar : Scalar.read (unquote (Text.trim after)) <;> rw [hscalar] at hitems <;>
      cases hitems

/-- Every filter that is read from a text can be written out. -/
theorem Filter.exists_text_of_parse {aliases : AliasTable} {text logic : Text}
    {name description : Option Text} {f : Filter}
    (hparse : Filter.parse aliases text logic name description = .ok f) : ∃ t, f.text = .ok t := by
  rw [Filter.parse, map_eq_ok_iff] at hparse
  obtain ⟨expressions, hread, rfl⟩ := hparse
  have hclauses : ∀ e ∈ expressions, ∃ t, e.text = .ok t := by
    intro e he
    obtain ⟨clause, -, hclause⟩ := exists_mem_of_forall₂ (mapM_eq_ok_iff.mp hread) e he
    exact Clause.exists_text_of_read hclause
  obtain ⟨texts, htexts⟩ := exists_mapM_eq_ok_iff.mpr hclauses
  exact ⟨_, by rw [Filter.text, htexts]; rfl⟩

end RecordFilter
