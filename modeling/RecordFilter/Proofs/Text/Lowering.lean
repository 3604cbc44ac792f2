import RecordFilter.Proofs.Text.Case
import RecordFilter.Text.Blank

/-!
Small letters: what the small form of a text is made of, and that it is its own small form.

Only a capital sigma is read together with its neighbours, so the small form of a text without one
is put together from the small forms of its characters. The small form of a character holds nothing
that has a small form other than itself, since no run of letters reaches into the places to which
letters are moved (`CaseRun.misses`).
-/

namespace RecordFilter.Text

namespace CaseRun

/-- The run takes the code point. -/
def Holds (run : CaseRun) (point : Nat) : Prop :=
  run.first ≤ point ∧ point ≤ run.last ∧ (point - run.first) % run.step = 0

theorem other?_eq_some_iff {run : CaseRun} {point other : Nat} :
    run.other? point = some other ↔ run.Holds point ∧ (point + run.distance).toNat = other := by
  rw [other?, Holds]
  simp only [Bool.and_eq_true, decide_eq_true_eq, beq_iff_eq, Option.ite_none_right_eq_some,
    Option.some.injEq, and_assoc]

/-- The places of the other cases. -/
def image (run : CaseRun) : CaseRun :=
  ⟨(run.first + run.distance).toNat, (run.last + run.distance).toNat, run.step, -run.distance⟩

theorem Holds.image {run : CaseRun} {point : Nat} (hpoint : run.Holds point)
    (hfirst : 0 ≤ run.first + run.distance) :
    run.image.Holds (point + run.distance).toNat := by
  obtain ⟨hlow, hhigh, hstep⟩ := hpoint
  refine ⟨?_, ?_, ?_⟩
  · simp only [CaseRun.image]
    omega
  · simp only [CaseRun.image]
    omega
  · have hsame : (point + run.distance).toNat - run.image.first = point - run.first := by
      simp only [CaseRun.image]
      omega
    rw [hsame]
    exact hstep

/-- Whether the run is a single point or takes every second one. -/
def alternates (run : CaseRun) : Bool :=
  Nat.beq run.step 2 || Nat.beq run.first run.last

/-- Whether two runs lie behind each other, or take turns. -/
def misses (run other : CaseRun) : Bool :=
  Nat.blt run.last other.first || (Nat.blt other.last run.first ||
    (run.alternates && (other.alternates && Nat.beq ((run.first + other.first) % 2) 1)))

theorem even_sub_of_alternates {run : CaseRun} {point : Nat} (hrun : run.alternates)
    (hpoint : run.Holds point) : (point - run.first) % 2 = 0 := by
  obtain ⟨hlow, hhigh, hstep⟩ := hpoint
  rcases Bool.or_eq_true_iff.mp hrun with htwo | hsingle
  · rwa [Nat.eq_of_beq_eq_true htwo] at hstep
  · have hsame := Nat.eq_of_beq_eq_true hsingle
    omega

/-- Two runs that miss each other have no point in common. -/
theorem not_holds_of_misses {run other : CaseRun} {point : Nat} (hmiss : run.misses other)
    (hpoint : run.Holds point) : ¬ other.Holds point := by
  intro hother
  rcases Bool.or_eq_true_iff.mp hmiss with hbehind | hmiss
  · have hlt := Nat.blt_eq.mp hbehind
    exact absurd (Nat.le_trans hother.1 hpoint.2.1) (Nat.not_le.mpr hlt)
  rcases Bool.or_eq_true_iff.mp hmiss with hbehind | hturns
  · have hlt := Nat.blt_eq.mp hbehind
    exact absurd (Nat.le_trans hpoint.1 hother.2.1) (Nat.not_le.mpr hlt)
  · rw [Bool.and_eq_true, Bool.and_eq_true] at hturns
    obtain ⟨hrun, halternates, hodd⟩ := hturns
    have hfirst := even_sub_of_alternates hrun hpoint
    have hsecond := even_sub_of_alternates halternates hother
    have hsum := Nat.eq_of_beq_eq_true hodd
    have hlow := hpoint.1
    have hother := hother.1
    omega

end CaseRun

/-- What has a small form other than itself: the capital `I` with a dot, and the letters of the
    runs. -/
def capitalRuns : List CaseRun := ⟨304, 304, 1, -199⟩ :: lowerRuns

/-- Whether a run has no capitals in it. -/
def CaseRun.isSmall (run : CaseRun) : Bool :=
  capitalRuns.all run.misses

private theorem isSmall_image :
    (lowerRuns.all fun run =>
      decide (0 ≤ run.first + run.distance) && run.image.isSmall) = true := by
  decide +kernel

private theorem toLower_plain : ∀ n : Fin 128, ¬ (65 ≤ n.val ∧ n.val ≤ 90) →
    (Char.ofNat n).toLower = Char.ofNat n := by
  decide

theorem lowerChar_of_holds {run : CaseRun} {c : Char} (hrun : run.isSmall)
    (hc : run.Holds c.toNat) : lowerChar c = [c] := by
  have hnot : ∀ other ∈ capitalRuns, ¬ other.Holds c.toNat := fun other hother =>
    CaseRun.not_holds_of_misses (List.all_eq_true.mp hrun other hother) hc
  rw [lowerChar]
  split_ifs with hplain hdotted
  · have hcapital : ¬ (65 ≤ c.toNat ∧ c.toNat ≤ 90) := fun hin =>
      hnot ⟨65, 90, 1, 32⟩ (List.mem_cons_of_mem _ List.mem_cons_self) ⟨hin.1, hin.2, Nat.mod_one _⟩
    have hsame := toLower_plain ⟨c.toNat, hplain⟩ hcapital
    rw [Char.ofNat_toNat] at hsame
    rw [hsame]
  · rw [hdotted] at hnot
    exact absurd ⟨Nat.le_refl _, Nat.le_refl _, rfl⟩ (hnot ⟨304, 304, 1, -199⟩ List.mem_cons_self)
  · have hnone : lowerRuns.findSome? (·.other? c.toNat) = none := by
      rw [List.findSome?_eq_none_iff]
      intro other hother
      rw [Option.eq_none_iff_forall_ne_some]
      intro point hpoint
      exact hnot other (List.mem_cons_of_mem _ hother) (CaseRun.other?_eq_some_iff.mp hpoint).1
    rw [hnone]

private theorem lowerChar_of_plain : ∀ n : Fin 128, ∀ d ∈ lowerChar (Char.ofNat n),
    lowerChar d = [d] := by
  decide

/-- The small form of a character is made of characters that are their own small forms. -/
theorem lowerChar_of_mem_lowerChar {c d : Char} (hd : d ∈ lowerChar c) : lowerChar d = [d] := by
  by_cases hplain : c.toNat < 128
  · rw [← Char.ofNat_toNat c] at hd
    exact lowerChar_of_plain ⟨c.toNat, hplain⟩ d hd
  by_cases hdotted : c = '\u0130'
  · rw [hdotted] at hd
    exact (by decide : ∀ d ∈ lowerChar '\u0130', lowerChar d = [d]) d hd
  rw [lowerChar, if_neg hplain, if_neg hdotted] at hd
  split at hd
  · rename_i point hpoint
    rw [List.mem_singleton] at hd
    obtain ⟨run, hrun, hother⟩ := List.exists_of_findSome?_eq_some hpoint
    obtain ⟨hholds, rfl⟩ := CaseRun.other?_eq_some_iff.mp hother
    have himage := List.all_eq_true.mp isSmall_image run hrun
    rw [Bool.and_eq_true, decide_eq_true_eq] at himage
    subst hd
    rcases toNat_ofNat (c.toNat + run.distance).toNat with hcode | hcode
    · refine lowerChar_of_holds himage.2 ?_
      rw [hcode]
      exact hholds.image himage.1
    · have hzero : Char.ofNat (c.toNat + run.distance).toNat = '\x00' := by
        rw [← Char.ofNat_toNat (Char.ofNat _), hcode]
      rw [hzero]
      rfl
  · rename_i hnone
    rw [List.mem_singleton] at hd
    rw [hd, lowerChar, if_neg hplain, if_neg hdotted, hnone]

/-- The white space characters in runs. -/
private def blankRuns : List CaseRun :=
  [⟨9, 13, 1, 0⟩, ⟨28, 32, 1, 0⟩, ⟨0x85, 0x85, 1, 0⟩, ⟨0xA0, 0xA0, 1, 0⟩, ⟨0x1680, 0x1680, 1, 0⟩,
    ⟨0x2000, 0x200A, 1, 0⟩, ⟨0x2028, 0x2029, 1, 0⟩, ⟨0x202F, 0x202F, 1, 0⟩,
    ⟨0x205F, 0x205F, 1, 0⟩, ⟨0x3000, 0x3000, 1, 0⟩]

theorem lowerChar_of_isBlank {c : Char} (hc : isBlank c) : lowerChar c = [c] := by
  have hsmall : ∀ run ∈ blankRuns, run.isSmall = true := by decide
  obtain ⟨run, hrun, hholds⟩ : ∃ run ∈ blankRuns, run.Holds c.toNat := by
    simp only [isBlank, Bool.or_eq_true, Bool.and_eq_true, decide_eq_true_eq, beq_iff_eq] at hc
    simp only [blankRuns, List.mem_cons, List.not_mem_nil, or_false, exists_eq_or_imp,
      exists_eq_left, CaseRun.Holds, Nat.mod_one, and_true]
    omega
  exact lowerChar_of_holds (hsmall run hrun) hholds

theorem lowerFrom_eq_flatMap {t : Text} (hsigma : 'Σ' ∉ t) (before : Text) :
    lowerFrom before t = t.flatMap lowerChar := by
  induction t generalizing before with
  | nil => rfl
  | cons c t ih =>
    rw [List.mem_cons, not_or] at hsigma
    rw [lowerFrom, if_neg (Ne.symm hsigma.1), ih hsigma.2, List.flatMap_cons]

theorem lower_eq_flatMap {t : Text} (hsigma : 'Σ' ∉ t) : lower t = t.flatMap lowerChar :=
  lowerFrom_eq_flatMap hsigma []

/-- Texts without a capital sigma are made small apart from each other. -/
theorem lower_append {s t : Text} (hs : 'Σ' ∉ s) (ht : 'Σ' ∉ t) :
    lower (s ++ t) = lower s ++ lower t := by
  have hboth : 'Σ' ∉ s ++ t := by
    rw [List.mem_append, not_or]
    exact ⟨hs, ht⟩
  rw [lower_eq_flatMap hboth, lower_eq_flatMap hs, lower_eq_flatMap ht, List.flatMap_append]

theorem lowerChar_capitalSigma : lowerChar 'Σ' = ['σ'] := by decide

private theorem sigma_mem (before after : Text) : sigma before after ∈ ['ς', 'σ'] := by
  unfold sigma
  split <;> decide

theorem lowerChar_of_mem_lowerFrom {before t : Text} {c : Char} (hc : c ∈ lowerFrom before t) :
    lowerChar c = [c] := by
  induction t generalizing before with
  | nil => cases hc
  | cons d t ih =>
    rw [lowerFrom, List.mem_append] at hc
    rcases hc with hfirst | hrest
    · split at hfirst
      · rw [List.mem_singleton] at hfirst
        have hsmall : ∀ c ∈ ['ς', 'σ'], lowerChar c = [c] := by decide
        exact hsmall c (hfirst ▸ sigma_mem before t)
      · exact lowerChar_of_mem_lowerChar hfirst
    · exact ih hrest

/-- The small form of a text is made of characters that are their own small forms. -/
theorem lowerChar_of_mem_lower {t : Text} {c : Char} (hc : c ∈ lower t) : lowerChar c = [c] :=
  lowerChar_of_mem_lowerFrom hc

theorem capitalSigma_not_mem_of_small {t : Text} (ht : ∀ c ∈ t, lowerChar c = [c]) : 'Σ' ∉ t := by
  intro hmem
  have hsmall := ht _ hmem
  rw [lowerChar_capitalSigma] at hsmall
  exact absurd hsmall (by decide)

theorem lowerFrom_eq_self {t : Text} (ht : ∀ c ∈ t, lowerChar c = [c]) (before : Text) :
    lowerFrom before t = t := by
  rw [lowerFrom_eq_flatMap (capitalSigma_not_mem_of_small ht), List.flatMap_congr ht,
    List.flatMap_singleton']

theorem lower_eq_self {t : Text} (ht : ∀ c ∈ t, lowerChar c = [c]) : lower t = t :=
  lowerFrom_eq_self ht []

/-- The small form of a text is its own small form. -/
theorem lower_lower (t : Text) : lower (lower t) = lower t :=
  lower_eq_self fun _ => lowerChar_of_mem_lower

/-- A text whose small form is plain has no capital sigma. -/
theorem capitalSigma_not_mem_of_plain {t : Text} (ht : ∀ c ∈ lower t, c.toNat < 128) : 'Σ' ∉ t := by
  suffices hfrom : ∀ before, (∀ c ∈ lowerFrom before t, c.toNat < 128) → 'Σ' ∉ t from hfrom [] ht
  clear ht
  induction t with
  | nil => exact fun _ _ => List.not_mem_nil
  | cons d t ih =>
    intro before hplain hmem
    rw [lowerFrom] at hplain
    rcases List.mem_cons.mp hmem with rfl | hmem
    · rw [if_pos rfl] at hplain
      have hbeyond : ∀ c ∈ ['ς', 'σ'], ¬ c.toNat < 128 := by decide
      exact hbeyond _ (sigma_mem before t) (hplain _ List.mem_cons_self)
    · exact ih (d :: before) (fun c hc => hplain c (List.mem_append_right _ hc)) hmem

theorem mem_lower_of_isBlank {t : Text} {c : Char} (hsigma : 'Σ' ∉ t) (hc : isBlank c)
    (hmem : c ∈ t) : c ∈ lower t := by
  rw [lower_eq_flatMap hsigma, List.mem_flatMap]
  exact ⟨c, hmem, by rw [lowerChar_of_isBlank hc]; exact List.mem_cons_self⟩

end RecordFilter.Text
