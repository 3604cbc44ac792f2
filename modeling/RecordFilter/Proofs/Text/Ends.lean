import Mathlib.Data.List.DropRight
import RecordFilter.Text.Basic
import RecordFilter.Text.Blank

/-!
The ends of texts: what is dropped there, and what trimming leaves.
-/

namespace RecordFilter.Text

private theorem dropEnd_cons (p : Char → Bool) (c : Char) (t : Text) :
    dropEnd p (c :: t) =
      if (dropEnd p t).isEmpty && p c then [] else c :: dropEnd p t :=
  rfl

theorem dropEnd_eq_nil {p : Char → Bool} {t : Text} (ht : ∀ c ∈ t, p c) : dropEnd p t = [] := by
  induction t with
  | nil => rfl
  | cons c t ih =>
    have hrest := ih fun d hd => ht d (List.mem_cons_of_mem _ hd)
    simp [dropEnd_cons, hrest, ht c List.mem_cons_self]

theorem dropEnd_append_of_forall {p : Char → Bool} {a b : Text} (hb : ∀ c ∈ b, p c) :
    dropEnd p (a ++ b) = dropEnd p a := by
  induction a with
  | nil => exact dropEnd_eq_nil hb
  | cons c a ih => rw [List.cons_append, dropEnd_cons, dropEnd_cons, ih]

theorem dropEnd_append_singleton {p : Char → Bool} {a : Text} {c : Char} (hc : ¬ p c) :
    dropEnd p (a ++ [c]) = a ++ [c] := by
  induction a with
  | nil => simp [dropEnd, hc]
  | cons d a ih =>
    rw [List.cons_append, dropEnd_cons, ih]
    simp

/-- What is dropped from the end are characters to be dropped. -/
theorem exists_eq_dropEnd_append (p : Char → Bool) (t : Text) :
    ∃ tail, t = dropEnd p t ++ tail ∧ ∀ c ∈ tail, p c := by
  induction t with
  | nil => exact ⟨[], rfl, nofun⟩
  | cons c t ih =>
    obtain ⟨tail, htail, hdropped⟩ := ih
    rw [dropEnd_cons]
    split
    · rename_i hend
      rw [Bool.and_eq_true, List.isEmpty_iff] at hend
      rw [hend.1, List.nil_append] at htail
      refine ⟨c :: t, rfl, ?_⟩
      intro d hd
      rcases List.mem_cons.mp hd with rfl | hd
      · exact hend.2
      · exact hdropped d (htail ▸ hd)
    · exact ⟨tail, by rw [List.cons_append, ← htail], hdropped⟩

section

variable {p : Char → Bool} {t : Text}

theorem dropEnd_eq_rdropWhile (p : Char → Bool) (t : Text) : dropEnd p t = t.rdropWhile p := by
  induction t using List.reverseRecOn with
  | nil => rfl
  | append_singleton t c ih =>
    by_cases hc : p c
    · rw [List.rdropWhile_concat_pos p t c hc, ← ih]
      exact dropEnd_append_of_forall (by simpa using hc)
    · rw [List.rdropWhile_concat_neg p t c hc]
      exact dropEnd_append_singleton hc

theorem dropWhile_append_cons {a b : Text} {c : Char} (hc : ¬ p c) :
    (a ++ c :: b).dropWhile p = a.dropWhile p ++ c :: b := by
  rw [List.dropWhile_append, List.dropWhile_cons_of_neg hc]
  split
  · rename_i hempty
    rw [List.isEmpty_iff.mp hempty, List.nil_append]
  · rfl

theorem dropEnd_append_cons {a b : Text} {c : Char} (hc : ¬ p c) :
    dropEnd p (a ++ c :: b) = a ++ c :: dropEnd p b := by
  have hreverse := dropWhile_append_cons (a := b.reverse) (b := a.reverse) hc
  simp only [dropEnd_eq_rdropWhile, List.rdropWhile]
  rw [List.reverse_append, List.reverse_cons, List.append_assoc, List.singleton_append, hreverse]
  simp

/-- What is behind a text is not reached by what drops a part of it only. -/
theorem dropEnd_append_of_exists {a b : Text} (hb : ∃ c ∈ b, ¬ p c) :
    dropEnd p (a ++ b) = a ++ dropEnd p b := by
  obtain ⟨c, hmem, hc⟩ := hb
  obtain ⟨front, back, rfl⟩ := List.append_of_mem hmem
  rw [← List.append_assoc, dropEnd_append_cons hc, dropEnd_append_cons hc, List.append_assoc]

theorem dropWhile_eq_self_iff : t.dropWhile p = t ↔ ∀ c ∈ t.head?, ¬ p c := by
  rw [List.dropWhile_eq_self_iff]
  cases t <;> simp

theorem dropEnd_eq_self_iff : dropEnd p t = t ↔ ∀ c ∈ t.getLast?, ¬ p c := by
  rw [dropEnd_eq_rdropWhile, List.rdropWhile_eq_self_iff]
  rcases List.eq_nil_or_concat t with rfl | ⟨front, last, rfl⟩ <;> simp

theorem isInfix_dropEnd (p : Char → Bool) (t : Text) : dropEnd p t <:+: t := by
  obtain ⟨tail, htail, -⟩ := exists_eq_dropEnd_append p t
  exact ⟨[], tail, htail.symm⟩

theorem trimBy_eq_self_iff :
    trimBy p t = t ↔ (∀ c ∈ t.head?, ¬ p c) ∧ ∀ c ∈ t.getLast?, ¬ p c := by
  rw [← dropWhile_eq_self_iff, ← dropEnd_eq_self_iff, trimBy]
  constructor
  · intro htrim
    have hlength := (isInfix_dropEnd p (t.dropWhile p)).length_le
    rw [htrim] at hlength
    have hfirst : t.dropWhile p = t := (List.dropWhile_suffix p).eq_of_length_le hlength
    rw [hfirst] at htrim
    exact ⟨hfirst, htrim⟩
  · rintro ⟨hfirst, hlast⟩
    rw [hfirst, hlast]

/-- What is to be dropped around a text is dropped with what is to be dropped of it. -/
theorem trimBy_append_append_of_forall {a b : Text} (ha : ∀ c ∈ a, p c) (hb : ∀ c ∈ b, p c)
    (t : Text) : trimBy p (a ++ t ++ b) = trimBy p t := by
  rw [trimBy, List.append_assoc, List.dropWhile_append_of_pos ha, List.dropWhile_append, trimBy]
  split
  · rename_i hempty
    rw [List.isEmpty_iff.mp hempty]
    exact dropEnd_eq_nil fun c hc => hb c ((List.dropWhile_suffix p).subset hc)
  · exact dropEnd_append_of_forall hb

theorem trimBy_eq_self (hfirst : ∀ c, t.head? = some c → ¬ p c)
    (hlast : ∀ c, t.getLast? = some c → ¬ p c) : trimBy p t = t :=
  trimBy_eq_self_iff.mpr ⟨hfirst, hlast⟩

end

theorem trim_eq_self_of_not_isBlank {t : Text} (ht : ∀ c ∈ t, ¬ isBlank c) : trim t = t :=
  trimBy_eq_self (fun c hc => ht c (List.mem_of_head? hc)) fun c hc => ht c (List.mem_of_getLast? hc)

/-- Blanks are all that trimming takes off. -/
theorem exists_eq_append_trim (t : Text) :
    ∃ lead tail, t = lead ++ (trim t ++ tail) ∧ (∀ c ∈ lead, isBlank c) ∧ ∀ c ∈ tail, isBlank c := by
  obtain ⟨tail, htail, hdropped⟩ := exists_eq_dropEnd_append isBlank (t.dropWhile isBlank)
  refine ⟨t.takeWhile isBlank, tail, ?_, fun c hc => List.mem_takeWhile_imp hc, hdropped⟩
  rw [trim, trimBy, ← htail, List.takeWhile_append_dropWhile]

theorem isInfix_trim (t : Text) : trim t <:+: t := by
  obtain ⟨lead, tail, hsplit, -, -⟩ := exists_eq_append_trim t
  exact ⟨lead, tail, by rw [List.append_assoc, ← hsplit]⟩

theorem mem_trim_iff {c : Char} (hc : ¬ isBlank c) {t : Text} : c ∈ trim t ↔ c ∈ t := by
  obtain ⟨lead, tail, hsplit, hlead, htail⟩ := exists_eq_append_trim t
  constructor
  · intro hmem
    rw [hsplit]
    exact List.mem_append_right _ (List.mem_append_left _ hmem)
  · intro hmem
    rw [hsplit, List.mem_append, List.mem_append] at hmem
    rcases hmem with hmem | hmem | hmem
    · exact absurd (hlead c hmem) hc
    · exact hmem
    · exact absurd (htail c hmem) hc

end RecordFilter.Text
