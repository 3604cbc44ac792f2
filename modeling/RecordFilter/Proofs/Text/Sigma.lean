import Mathlib.Data.List.Infix
import Mathlib.Data.List.TakeWhile
import RecordFilter.Proofs.Text.Case

/-!
The small form of a text within another one.

A capital sigma is made small with regard to the nearest letters on both sides, and every other
character by itself. The small form of a text is therefore found in the small form of every text
that holds it, unless its first or its last letter is a capital sigma that is made small otherwise
between other letters than at the end of a text (`TurnsSigma`, `EndsInSigma`).
-/

namespace RecordFilter.Text

/-- The text has no letters, only marks that are passed over on the way to the nearest letter. -/
def HasNoLetters (text : Text) : Prop :=
  ∀ c ∈ text, caseIgnorableRanges.covers c.toNat

section

variable {s t : Text}

theorem HasNoLetters.reverse (ht : HasNoLetters t) : HasNoLetters t.reverse :=
  fun c hc => ht c (List.mem_reverse.mp hc)

theorem hasNoLetters_reverse_iff : HasNoLetters t.reverse ↔ HasNoLetters t :=
  ⟨fun ht => t.reverse_reverse ▸ ht.reverse, HasNoLetters.reverse⟩

theorem meetsCased_append_of_hasNoLetters (hs : HasNoLetters s) :
    meetsCased (s ++ t) = meetsCased t := by
  rw [meetsCased, List.dropWhile_append_of_pos hs, meetsCased]

theorem meetsCased_of_hasNoLetters (ht : HasNoLetters t) : meetsCased t = false := by
  rw [← List.append_nil t, meetsCased_append_of_hasNoLetters ht]
  rfl

theorem meetsCased_append_of_not (hs : ¬ HasNoLetters s) : meetsCased (s ++ t) = meetsCased s := by
  have hletter : s.dropWhile (fun c => caseIgnorableRanges.covers c.toNat) ≠ [] :=
    fun hnil => hs (List.dropWhile_eq_nil_iff.mp hnil)
  obtain ⟨c, rest, hcons⟩ := List.exists_cons_of_ne_nil hletter
  rw [meetsCased, List.dropWhile_append, hcons, meetsCased, hcons]
  rfl

end

/-- The small form that a text has between two others, the first of which is given in reverse. -/
def lowerWithin (before after : Text) : Text → Text
  | [] => []
  | c :: rest =>
    (if c = 'Σ' then [sigma before (rest ++ after)] else lowerChar c) ++
      lowerWithin (c :: before) after rest

theorem lowerFrom_append (before s t : Text) :
    lowerFrom before (s ++ t) = lowerWithin before t s ++ lowerFrom (s.reverse ++ before) t := by
  induction s generalizing before with
  | nil => rfl
  | cons c s ih =>
    rw [List.cons_append, lowerFrom, ih, lowerWithin, List.reverse_cons, List.append_assoc,
      List.append_assoc]
    rfl

theorem lowerWithin_nil (before t : Text) : lowerWithin before [] t = lowerFrom before t := by
  have hsplit := lowerFrom_append before t []
  rw [List.append_nil] at hsplit
  rw [hsplit, lowerFrom, List.append_nil]

theorem lower_append_append (before t after : Text) :
    lower (before ++ t ++ after) = lowerWithin [] (t ++ after) before ++
      (lowerWithin before.reverse after t ++ lowerFrom (t.reverse ++ before.reverse) after) := by
  rw [lower, List.append_assoc, lowerFrom_append, lowerFrom_append, List.append_nil]

section

variable {before before' after after' : Text}

theorem length_lowerWithin (t : Text) :
    (lowerWithin before after t).length = (lowerWithin before' after' t).length := by
  induction t generalizing before before' with
  | nil => rfl
  | cons c t ih =>
    rw [lowerWithin, lowerWithin, List.length_append, List.length_append, ih]
    split <;> rfl

/-- The small forms of a text in two places are the same if each of its capital sigmas becomes the
    same small one in both. -/
theorem lowerWithin_eq_iff {t : Text} :
    lowerWithin before after t = lowerWithin before' after' t ↔
      ∀ first last, t = first ++ 'Σ' :: last →
        sigma (first.reverse ++ before) (last ++ after) =
          sigma (first.reverse ++ before') (last ++ after') := by
  induction t generalizing before before' with
  | nil => simp [lowerWithin]
  | cons c t ih =>
    have hstep : lowerWithin before after (c :: t) = lowerWithin before' after' (c :: t) ↔
        (c = 'Σ' → sigma before (t ++ after) = sigma before' (t ++ after')) ∧
          lowerWithin (c :: before) after t = lowerWithin (c :: before') after' t := by
      rw [lowerWithin, lowerWithin]
      by_cases hc : c = 'Σ'
      · rw [if_pos hc, if_pos hc]
        simp [hc]
      · rw [if_neg hc, if_neg hc, List.append_right_inj]
        simp [hc]
    rw [hstep, ih]
    constructor
    · rintro ⟨hhead, htail⟩ first last hsplit
      cases first with
      | nil =>
        obtain ⟨rfl, rfl⟩ := List.cons.inj hsplit
        exact hhead rfl
      | cons d first =>
        obtain ⟨rfl, rfl⟩ := List.cons.inj hsplit
        simpa using htail first last rfl
    · intro hall
      refine ⟨?_, fun first last hsplit => ?_⟩
      · rintro rfl
        exact hall [] t rfl
      · simpa using hall (c :: first) last (by rw [hsplit]; rfl)

end

/-- A capital sigma of the text becomes another small one between the two others than it becomes in
    the text alone: one before which the text has no letter becomes final, or one behind which it
    has none is no longer final. -/
def TurnsSigma (before text after : Text) : Prop :=
  ∃ first last, text = first ++ 'Σ' :: last ∧
    (HasNoLetters first ∧ meetsCased before.reverse ∧ ¬ meetsCased (last ++ after) ∨
      meetsCased first.reverse ∧ HasNoLetters last ∧ meetsCased after)

theorem sigma_append_iff (before first last after : Text) :
    sigma (first.reverse ++ before.reverse) (last ++ after) ≠ sigma first.reverse last ↔
      HasNoLetters first ∧ meetsCased before.reverse ∧ ¬ meetsCased (last ++ after) ∨
        meetsCased first.reverse ∧ HasNoLetters last ∧ meetsCased after := by
  have hfinal : ∀ b b' : Bool, ((if b then 'ς' else 'σ') ≠ if b' then 'ς' else 'σ') ↔ b ≠ b' := by
    decide
  rw [sigma, sigma, hfinal]
  by_cases hfirst : HasNoLetters first
  · have hnone := meetsCased_of_hasNoLetters hfirst.reverse
    rw [meetsCased_append_of_hasNoLetters hfirst.reverse, hnone]
    simp [hfirst]
  · rw [meetsCased_append_of_not (mt hasNoLetters_reverse_iff.mp hfirst)]
    by_cases hlast : HasNoLetters last
    · rw [meetsCased_append_of_hasNoLetters hlast, meetsCased_of_hasNoLetters hlast]
      cases meetsCased first.reverse <;> simp [hfirst, hlast]
    · rw [meetsCased_append_of_not hlast]
      simp [hfirst, hlast]

/-- Between two others a text has its own small form, unless one of its capital sigmas turns. -/
theorem lowerWithin_eq_lower_iff {before text after : Text} :
    lowerWithin before.reverse after text = lower text ↔ ¬ TurnsSigma before text after := by
  rw [lower, ← lowerWithin_nil, lowerWithin_eq_iff, TurnsSigma]
  simp only [List.append_nil]
  constructor
  · rintro hall ⟨first, last, hsplit, hturns⟩
    exact (sigma_append_iff before first last after).mpr hturns (hall first last hsplit)
  · intro hnot first last hsplit
    by_contra hne
    exact hnot ⟨first, last, hsplit, (sigma_append_iff before first last after).mp hne⟩

theorem isInfix_lower_of_not_turnsSigma {before text after : Text}
    (hturns : ¬ TurnsSigma before text after) :
    lower text <:+: lower (before ++ text ++ after) := by
  rw [lower_append_append, lowerWithin_eq_lower_iff.mpr hturns, ← List.append_assoc]
  exact List.infix_append _ _ _

/-- The first or the last letter of the text is a capital sigma: the first one without a letter
    behind it that has case, or the last one with one before it. -/
def EndsInSigma (text : Text) : Prop :=
  ∃ first last, text = first ++ 'Σ' :: last ∧
    (HasNoLetters first ∧ ¬ meetsCased last ∨ meetsCased first.reverse ∧ HasNoLetters last)

theorem TurnsSigma.endsInSigma {before text after : Text}
    (hturns : TurnsSigma before text after) : EndsInSigma text := by
  obtain ⟨first, last, hsplit, ⟨hfirst, -, hlast⟩ | ⟨hfirst, hlast, -⟩⟩ := hturns
  · refine ⟨first, last, hsplit, Or.inl ⟨hfirst, ?_⟩⟩
    by_cases hnone : HasNoLetters last
    · simp [meetsCased_of_hasNoLetters hnone]
    · rwa [meetsCased_append_of_not hnone] at hlast
  · exact ⟨first, last, hsplit, Or.inr ⟨hfirst, hlast⟩⟩

/-- There is a letter with a small form other than a given character. -/
private theorem exists_cased_ne (c : Option Char) :
    ∃ a small, meetsCased [a] ∧ a ≠ 'Σ' ∧ lowerChar a = [small] ∧ c ≠ some small := by
  by_cases hc : c = some 'a'
  · exact ⟨'B', 'b', by decide, by decide, by decide, by rw [hc]; decide⟩
  · exact ⟨'A', 'a', by decide, by decide, by decide, hc⟩

/-- A letter before or behind such a text is enough for its small form not to be found any more. -/
theorem EndsInSigma.exists_not_isInfix {text : Text} (hends : EndsInSigma text) :
    ∃ before after, ¬ lower text <:+: lower (before ++ text ++ after) := by
  obtain ⟨first, last, hsplit, hsigma⟩ := hends
  have hne : lower text ≠ [] := by
    rw [Ne, lower_eq_nil_iff, hsplit]
    simp
  have hother {before after : Text} (hturns : TurnsSigma before text after) :
      ¬ lower text <:+: lowerWithin before.reverse after text := by
    intro hwithin
    have hlength : (lower text).length = (lowerWithin before.reverse after text).length := by
      rw [lower, ← lowerWithin_nil]
      exact length_lowerWithin text
    exact lowerWithin_eq_lower_iff.mp (hwithin.eq_of_length hlength).symm hturns
  rcases hsigma with ⟨hfirst, hlast⟩ | ⟨hfirst, hlast⟩
  · obtain ⟨a, small, hcased, hplain, hsmall, hhead⟩ := exists_cased_ne (lower text).head?
    have hturns : TurnsSigma [a] text [] :=
      ⟨first, last, hsplit, Or.inl ⟨hfirst, hcased, by rwa [List.append_nil]⟩⟩
    refine ⟨[a], [], ?_⟩
    have hlower : lower ([a] ++ text ++ []) = small :: lowerWithin [a] [] text := by
      rw [lower_append_append, lowerWithin, if_neg hplain, hsmall]
      simp [lowerWithin, lowerFrom]
    rw [hlower, List.infix_cons_iff, not_or]
    refine ⟨?_, hother hturns⟩
    rintro ⟨rest, hbegins⟩
    have hbegin := congrArg List.head? hbegins
    rw [List.head?_append_of_ne_nil _ hne] at hbegin
    exact hhead hbegin
  · obtain ⟨a, small, hcased, hplain, hsmall, hlast'⟩ := exists_cased_ne (lower text).getLast?
    have hturns : TurnsSigma [] text [a] :=
      ⟨first, last, hsplit, Or.inr ⟨hfirst, hlast, hcased⟩⟩
    refine ⟨[], [a], ?_⟩
    have hlower : lower ([] ++ text ++ [a]) = lowerWithin [] [a] text ++ [small] := by
      rw [lower_append_append, lowerFrom, if_neg hplain, hsmall]
      simp [lowerWithin, lowerFrom]
    rw [hlower, List.infix_concat_iff, not_or]
    refine ⟨?_, hother hturns⟩
    rintro ⟨front, hends⟩
    have hend := congrArg List.getLast? hends
    rw [List.getLast?_append_of_ne_nil _ hne, List.getLast?_concat] at hend
    exact hlast' hend

/-- The small form of a text is found in that of every text that holds it just if the text does not
    end in a capital sigma. -/
theorem isInfix_lower_iff {text : Text} :
    (∀ before after, lower text <:+: lower (before ++ text ++ after)) ↔ ¬ EndsInSigma text := by
  constructor
  · intro hall hends
    obtain ⟨before, after, hnot⟩ := hends.exists_not_isInfix
    exact hnot (hall before after)
  · exact fun hends before after =>
      isInfix_lower_of_not_turnsSigma fun hturns => hends hturns.endsInSigma

end RecordFilter.Text
