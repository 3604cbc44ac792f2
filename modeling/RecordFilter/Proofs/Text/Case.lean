import RecordFilter.Text.Case
import Mathlib.Data.List.Basic

/-!
What a change of letter case leaves alone: the visible characters below U+0080 that are no letters.
A text has such a character in its other case exactly if it has it as it stands (`mem_lower_iff`).
-/

namespace RecordFilter.Text

/-- Whether a character is one of the plain alphabet that is no letter and can be seen. -/
def isUncased (c : Char) : Bool :=
  32 ≤ c.toNat && c.toNat < 128 && !c.isAlpha

/-- The other cases of the letters in a run are beyond the plain alphabet or letters of it. A run
    within the plain alphabet is never looked up. -/
def CaseRun.IsApart (run : CaseRun) : Prop :=
  run.last < 128 ∨ 128 ≤ run.first + run.distance ∨
    (97 ≤ run.first + run.distance ∧ run.last + run.distance ≤ 122) ∨
    (65 ≤ run.first + run.distance ∧ run.last + run.distance ≤ 90)

instance (run : CaseRun) : Decidable run.IsApart :=
  inferInstanceAs (Decidable (_ ∨ _))

private theorem isApart_of_mem : ∀ run ∈ lowerRuns ++ upperRuns, run.IsApart := by
  decide +kernel

private theorem upperSequences_apart : ∀ entry ∈ upperSequences,
    entry.2 ≠ [] ∧ ∀ point ∈ entry.2, ¬ isUncased (Char.ofNat point) := by
  decide +kernel

theorem toNat_ofNat (n : Nat) : (Char.ofNat n).toNat = n ∨ (Char.ofNat n).toNat = 0 := by
  by_cases hvalid : n.isValidChar
  · left
    rw [Char.ofNat, dif_pos hvalid]
    rfl
  · right
    rw [Char.ofNat, dif_neg hvalid]
    rfl

private theorem letters_cased : ∀ n : Fin 128, (97 ≤ n.val ∧ n.val ≤ 122) ∨
    (65 ≤ n.val ∧ n.val ≤ 90) → ¬ isUncased (Char.ofNat n) := by
  decide

private theorem plain_case : ∀ n : Fin 128,
    (isUncased (Char.ofNat n).toLower → (Char.ofNat n).toLower = Char.ofNat n) ∧
      (isUncased (Char.ofNat n).toUpper → (Char.ofNat n).toUpper = Char.ofNat n) ∧
      (isUncased (Char.ofNat n) →
        (Char.ofNat n).toLower = Char.ofNat n ∧ (Char.ofNat n).toUpper = Char.ofNat n) := by
  decide

private theorem not_isUncased_ofNat {n : Nat}
    (hn : 128 ≤ n ∨ (97 ≤ n ∧ n ≤ 122) ∨ (65 ≤ n ∧ n ≤ 90)) : ¬ isUncased (Char.ofNat n) := by
  rcases hn with hbeyond | hletter
  · intro huncased
    simp only [isUncased, Bool.and_eq_true, decide_eq_true_eq] at huncased
    have hcode := toNat_ofNat n
    omega
  · exact letters_cased ⟨n, by omega⟩ hletter

private theorem not_isUncased_of_other? {run : CaseRun} {point other : Nat} (hrun : run.IsApart)
    (hpoint : 128 ≤ point) (hother : run.other? point = some other) :
    ¬ isUncased (Char.ofNat other) := by
  simp only [CaseRun.other?, Bool.and_eq_true, decide_eq_true_eq, beq_iff_eq] at hother
  split at hother
  · rename_i hin
    obtain ⟨⟨hfirst, hlast⟩, -⟩ := hin
    have hvalue := Option.some.inj hother
    apply not_isUncased_ofNat
    rcases hrun with h | h | ⟨h, h'⟩ | ⟨h, h'⟩ <;> omega
  · cases hother

private theorem not_isUncased_of_findSome? {runs : List CaseRun} {point other : Nat}
    (hruns : runs ⊆ lowerRuns ++ upperRuns) (hpoint : 128 ≤ point)
    (hother : runs.findSome? (·.other? point) = some other) : ¬ isUncased (Char.ofNat other) := by
  obtain ⟨run, hrun, hfound⟩ := List.exists_of_findSome?_eq_some hother
  exact not_isUncased_of_other? (isApart_of_mem run (hruns hrun)) hpoint hfound

private theorem ne_of_isUncased {c d : Char} (hc : isUncased c) (hd : ¬ d.toNat < 128) : c ≠ d := by
  rintro rfl
  simp only [isUncased, Bool.and_eq_true, decide_eq_true_eq] at hc
  omega

theorem mem_lowerChar_iff {c d : Char} (hc : isUncased c) : c ∈ lowerChar d ↔ c = d := by
  by_cases hplain : d.toNat < 128
  · obtain ⟨hlower, -, hsame⟩ := plain_case ⟨d.toNat, hplain⟩
    simp only [Char.ofNat_toNat] at hlower hsame
    rw [lowerChar, if_pos hplain, List.mem_singleton]
    constructor
    · rintro rfl
      exact hlower hc
    · rintro rfl
      exact (hsame hc).1.symm
  · have hne := ne_of_isUncased hc hplain
    have hnot : c ∉ lowerChar d := by
      rw [lowerChar, if_neg hplain]
      intro hmem
      split at hmem
      · rw [List.mem_cons, List.mem_singleton] at hmem
        rcases hmem with rfl | rfl <;> exact absurd hc (by decide)
      · split at hmem
        · rename_i other hother
          rw [List.mem_singleton.mp hmem] at hc
          exact not_isUncased_of_findSome? (List.subset_append_left _ _) (by omega) hother hc
        · exact hne (List.mem_singleton.mp hmem)
    exact iff_of_false hnot hne

theorem mem_upperChar_iff {c d : Char} (hc : isUncased c) : c ∈ upperChar d ↔ c = d := by
  by_cases hplain : d.toNat < 128
  · obtain ⟨-, hupper, hsame⟩ := plain_case ⟨d.toNat, hplain⟩
    simp only [Char.ofNat_toNat] at hupper hsame
    rw [upperChar, if_pos hplain, List.mem_singleton]
    constructor
    · rintro rfl
      exact hupper hc
    · rintro rfl
      exact (hsame hc).2.symm
  · have hne := ne_of_isUncased hc hplain
    have hnot : c ∉ upperChar d := by
      rw [upperChar, if_neg hplain]
      intro hmem
      split at hmem
      · rename_i points hpoints
        obtain ⟨before, after, hsplit, -⟩ := List.lookup_eq_some_iff.mp hpoints
        obtain ⟨point, hpoint, rfl⟩ := List.mem_map.mp hmem
        have hentry : (d.toNat, points) ∈ upperSequences := by
          rw [hsplit]
          exact List.mem_append_right _ List.mem_cons_self
        exact (upperSequences_apart _ hentry).2 point hpoint hc
      · split at hmem
        · rename_i other hother
          rw [List.mem_singleton.mp hmem] at hc
          exact not_isUncased_of_findSome? (List.subset_append_right _ _) (by omega) hother hc
        · exact hne (List.mem_singleton.mp hmem)
    exact iff_of_false hnot hne

theorem lowerChar_ne_nil (c : Char) : lowerChar c ≠ [] := by
  unfold lowerChar
  split_ifs
  · exact List.cons_ne_nil _ _
  · exact List.cons_ne_nil _ _
  · split <;> exact List.cons_ne_nil _ _

theorem upperChar_ne_nil (c : Char) : upperChar c ≠ [] := by
  unfold upperChar
  split_ifs
  · exact List.cons_ne_nil _ _
  · split
    · rename_i points hpoints
      obtain ⟨before, after, hsplit, -⟩ := List.lookup_eq_some_iff.mp hpoints
      have hentry : (c.toNat, points) ∈ upperSequences := by
        rw [hsplit]
        exact List.mem_append_right _ List.mem_cons_self
      simpa [ofPoints] using (upperSequences_apart _ hentry).1
    · split <;> exact List.cons_ne_nil _ _

private theorem mem_lowerFrom_iff {c : Char} (hc : isUncased c) (before t : Text) :
    c ∈ lowerFrom before t ↔ c ∈ t := by
  induction t generalizing before with
  | nil => rfl
  | cons d t ih =>
    have hfirst : c ∈ (if d = 'Σ' then [sigma before t] else lowerChar d) ↔ c = d := by
      split
      · rename_i hsigma
        have hnot : ∀ e ∈ ['ς', 'σ', 'Σ'], ¬ isUncased e := by decide
        have hform : sigma before t ∈ ['ς', 'σ', 'Σ'] := by
          unfold sigma
          split <;> decide
        rw [List.mem_singleton]
        constructor
        · rintro rfl
          exact absurd hc (hnot _ hform)
        · rintro rfl
          exact absurd hc (hnot c (by rw [hsigma]; decide))
      · exact mem_lowerChar_iff hc
    rw [lowerFrom, List.mem_append, hfirst, ih, List.mem_cons]

/-- The small form of a text has the same characters that are no letters as the text. -/
theorem mem_lower_iff {c : Char} (hc : isUncased c) {t : Text} : c ∈ lower t ↔ c ∈ t :=
  mem_lowerFrom_iff hc [] t

/-- The capital form of a text has the same characters that are no letters as the text. -/
theorem mem_upper_iff {c : Char} (hc : isUncased c) {t : Text} : c ∈ upper t ↔ c ∈ t := by
  rw [upper, List.mem_flatMap]
  simp only [mem_upperChar_iff hc, exists_eq_right']

theorem lower_eq_nil_iff {t : Text} : lower t = [] ↔ t = [] := by
  cases t with
  | nil => exact ⟨fun _ => rfl, fun _ => rfl⟩
  | cons c t =>
    have hfirst : (if c = 'Σ' then [sigma [] t] else lowerChar c) ≠ [] := by
      split
      · exact List.cons_ne_nil _ _
      · exact lowerChar_ne_nil c
    rw [lower, lowerFrom, List.append_eq_nil_iff]
    exact iff_of_false (fun h => hfirst h.1) (List.cons_ne_nil _ _)

end RecordFilter.Text
