import RecordFilter.Proofs.Clause.Quotes
import RecordFilter.Proofs.Clause.Separators
import RecordFilter.Proofs.Filter.Combination
import RecordFilter.Proofs.Outcome

/-!
From which texts the filter without conditions is read.

Clauses are separated by spaces, and any other blank belongs to a clause. So only a text of spaces
has no clauses, and in a blank text with another blank the first clause has nothing in it.
-/

namespace RecordFilter

namespace Clause

/-- The marks of list operators have no spaces in them. -/
theorem exists_mem_protect {t : Text} (ht : ∃ c ∈ t, c ≠ ' ') : ∃ c ∈ protect t, c ≠ ' ' :=
  Text.exists_mem_replaceAll (by decide) ⟨'_', by decide, by decide⟩
    (Text.exists_mem_replaceAll (by decide) ⟨'_', by decide, by decide⟩ ht)

/-- Only a text of spaces has no clauses. -/
theorem split_eq_nil_iff {t : Text} : split t = [] ↔ ∀ c ∈ t, c = ' ' := by
  rw [split, List.map_eq_nil_iff, words_eq_nil_iff]
  constructor
  · intro hspaces
    by_contra hother
    obtain ⟨c, hc, hne⟩ := exists_mem_protect (by simpa using hother)
    exact hne (hspaces c hc)
  · intro hspaces
    rwa [protect_eq_self]
    intro hoccurs
    exact absurd (hspaces 'i' (hoccurs.subset (by decide))) (by decide)

theorem isPlain_of_isBlank {c : Char} (hc : Text.isBlank c) : Cursor.isPlain c := by
  refine Cursor.isPlain_iff.mpr ⟨?_, ?_, ?_, ?_, ?_⟩ <;> rintro rfl <;> exact absurd hc (by decide)

/-- The first clause of a blank text is what stands between its first spaces and the next one. -/
theorem exists_split_of_isBlankText {t : Text} (hblank : Text.isBlankText t)
    (ht : ∃ c ∈ t, c ≠ ' ') :
    ∃ others, split t = (t.dropWhile (· = ' ')).takeWhile (· ≠ ' ') :: others := by
  have hall : ∀ c ∈ t, Text.isBlank c := List.all_eq_true.mp hblank
  obtain ⟨others, hwords⟩ := exists_words_eq_cons (fun c hc => isPlain_of_isBlank (hall c hc)) ht
  have hin : ¬ Operator.isIn.token <:+: t :=
    fun hoccurs => absurd (hall 'i' (hoccurs.subset (by decide))) (by decide)
  have hlow : '_' ∉ (t.dropWhile (· = ' ')).takeWhile (· ≠ ' ') := by
    intro hmem
    have hmem := (List.dropWhile_suffix _).subset ((List.takeWhile_prefix _).subset hmem)
    exact absurd (hall '_' hmem) (by decide)
  have hfirst : unprotect ((t.dropWhile (· = ' ')).takeWhile (· ≠ ' ')) =
      (t.dropWhile (· = ' ')).takeWhile (· ≠ ' ') :=
    unprotect_eq_self fun hoccurs => hlow (hoccurs.subset List.mem_cons_self)
  rw [split, protect_eq_self hin, hwords, List.map_cons, hfirst]
  exact ⟨_, rfl⟩

end Clause

open Clause

namespace Filter

/-- A text is read as the filter without conditions, which is the one that selects every record,
    exactly if it has nothing but spaces. A blank text with another blank among them is rejected,
    and its first run of such blanks is shown as the clause that has nothing in it. -/
theorem parse_isEmpty_iff (aliases : AliasTable) (text logic : Text)
    (name description : Option Text) :
    ((∃ f, parse aliases text logic name description = .ok f ∧ f.isEmpty) ↔ ∀ c ∈ text, c = ' ') ∧
      ((∃ f, parse aliases text logic name description = .ok f ∧
          ∀ record, f.holds record = .ok true) ↔ ∀ c ∈ text, c = ' ') ∧
      (Text.isBlankText text → (∃ c ∈ text, c ≠ ' ') →
        parse aliases text logic name description =
          .error (emptyClause ((text.dropWhile (· = ' ')).takeWhile (· ≠ ' ')))) := by
  have hempty : (∃ f, parse aliases text logic name description = .ok f ∧ f.isEmpty) ↔
      ∀ c ∈ text, c = ' ' := by
    rw [← split_eq_nil_iff]
    constructor
    · rintro ⟨f, hparse, hnone⟩
      rw [parse, map_eq_ok_iff] at hparse
      obtain ⟨expressions, hread, rfl⟩ := hparse
      obtain rfl : expressions = [] := List.isEmpty_iff.mp hnone
      exact List.forall₂_nil_right_iff.mp (mapM_eq_ok_iff.mp hread)
    · intro hsplit
      refine ⟨⟨[], logic, name, description⟩, ?_, rfl⟩
      rw [parse, readAll, hsplit]
      rfl
  refine ⟨hempty, ?_, fun hblank hother => ?_⟩
  · simp only [← isEmpty_iff_forall_holds]
    exact hempty
  · obtain ⟨others, hsplit⟩ := exists_split_of_isBlankText hblank hother
    -- The first clause is blank as a part of the text, and no other is looked at.
    have hfirst : Text.isBlankText ((text.dropWhile (· = ' ')).takeWhile (· ≠ ' ')) :=
      List.all_eq_true.mpr fun c hc => List.all_eq_true.mp hblank c
        ((List.dropWhile_suffix _).subset ((List.takeWhile_prefix _).subset hc))
    rw [parse, readAll, hsplit, List.mapM_cons, Clause.read, if_pos hfirst]
    rfl

/-- A tab between spaces does not separate clauses, but is one that has nothing in it. -/
theorem parse_of_tab :
    Text.isBlankText " \t \n".toList ∧
      parse .standard " \t \n".toList andLogic = .error (emptyClause "\t".toList) := by
  have hblank : Text.isBlankText " \t \n".toList := by decide
  have hother : ∃ c ∈ " \t \n".toList, c ≠ ' ' := ⟨'\t', by decide, by decide⟩
  exact ⟨hblank, (parse_isEmpty_iff .standard " \t \n".toList andLogic none none).2.2 hblank hother⟩

end Filter

end RecordFilter
