import RecordFilter.Proofs.Clause.Aliases
import RecordFilter.Proofs.Text.Capitals
import RecordFilter.Proofs.Text.Search

/-!
Record keys that stand for themselves: whether the key of a name is also the key of itself.

A standard key is looked up in small letters like any name. So a key of another wording than its
alias is lost, unless the wording is an alias as well, and other keys last as long as the capital
form of their first letter does (`Lasting`).
-/

namespace RecordFilter.AliasTable

open Text

/-- The key of the name, which is in small letters, stands for itself. -/
def Lasting (name : Text) : Prop :=
  name ∉ ["node".toList, "nodes".toList, "time".toList, "ſtatus".toList] ∧
    ∀ c ∈ name.head?, lower (upperChar c).tail = (upperChar c).tail

instance (name : Text) : Decidable (Lasting name) :=
  inferInstanceAs (Decidable (_ ∧ _))

section

variable {head small c : Char} {tail rest : Text}

theorem lower_cons_capital (hc : IsCapitalOf head tail small c) (rest : Text) :
    lower (head :: rest) = small :: lowerFrom [head] rest := by
  rw [lower, lowerFrom]
  split_ifs with hsigma
  · have hsmall := hc.lower_head
    rw [hsigma, lowerChar_capitalSigma] at hsmall
    rw [← (List.cons.inj hsmall).1]
    rfl
  · rw [hc.lower_head]
    rfl

/-- A capitalized name is capitalized from its small form, as long as nothing but the first character
    of a capital form has a small form other than itself. -/
theorem capitalized_lower_eq_iff (hc : IsCapitalOf head tail small c)
    (hrest : ∀ d ∈ rest, lowerChar d = [d]) :
    capitalized (lower (capitalized (c :: rest))) = capitalized (c :: rest) ↔
      ∀ d ∈ tail, lowerChar d = [d] := by
  have hform : capitalized (c :: rest) = head :: (tail ++ rest) := by
    rw [capitalized, hc.upper, List.cons_append]
  rw [hform, lower_cons_capital hc, capitalized, hc.upper_small, List.singleton_append,
    List.cons_inj_right]
  constructor
  · intro hsame d hd
    have hmem : d ∈ tail ++ rest := List.mem_append_left _ hd
    rw [← hsame] at hmem
    exact lowerChar_of_mem_lowerFrom hmem
  · intro htail
    refine lowerFrom_eq_self (fun d hd => ?_) _
    exact (List.mem_append.mp hd).elim (htail d) (hrest d)

end

theorem mem_entries_of_find? {table : AliasTable} {name key : Text}
    (hfind : table.find? name = some key) : (name, key) ∈ table.entries := by
  obtain ⟨before, after, hsplit, -⟩ := List.lookup_eq_some_iff.mp hfind
  rw [hsplit]
  exact List.mem_append_right _ List.mem_cons_self

private theorem lasting_iff_of_mem : ∀ entry ∈ standard.entries,
    standard.canonical entry.2 = entry.2 ↔ Lasting entry.1 := by
  decide

private theorem plain_of_mem : ∀ entry ∈ standard.entries, ∀ c ∈ entry.1, c.toNat < 128 := by
  decide

private theorem eq_of_mem_of_head? : ∀ entry ∈ standard.entries,
    entry.1.head? ≠ some 'i' ∧ (entry.1.head? = some 's' →
      entry = ("state".toList, "State".toList) ∨ entry = ("status".toList, "State".toList)) := by
  decide

private theorem not_isPrefixOf_of_mem_upperSequences : ∀ sequence ∈ upperSequences,
    (¬ ∀ d ∈ (ofPoints sequence.2).tail, lowerChar d = [d]) →
      ∀ entry ∈ standard.entries, ¬ (ofPoints sequence.2).isPrefixOf entry.2 := by
  decide +kernel

/-- Only some letters beyond the plain alphabet have several capitals. -/
private theorem exists_mem_upperSequences {c : Char} (hc : (upperChar c).tail ≠ []) :
    ∃ sequence ∈ upperSequences, ofPoints sequence.2 = upperChar c := by
  rw [upperChar] at hc ⊢
  split_ifs at hc ⊢ with hplain
  · exact absurd rfl hc
  · split at hc
    · rename_i points hpoints
      obtain ⟨before, after, hsplit, -⟩ := List.lookup_eq_some_iff.mp hpoints
      refine ⟨(c.toNat, points), ?_, rfl⟩
      rw [hsplit]
      exact List.mem_append_right _ List.mem_cons_self
    · split at hc <;> exact absurd rfl hc

section

variable {head small c : Char} {tail rest : Text}

/-- No standard key begins with several capitals of one letter. -/
private theorem not_mem_standard_of_capitals {name : Text} (hc : IsCapitalOf head tail small c)
    (htail : ¬ ∀ d ∈ tail, lowerChar d = [d]) :
    (name, capitalized (c :: rest)) ∉ standard.entries := by
  intro hentry
  have hform : upperChar c = head :: tail := hc.upper
  have hsome : (upperChar c).tail ≠ [] := by
    rw [hform]
    rintro rfl
    exact htail fun _ hd => absurd hd List.not_mem_nil
  obtain ⟨sequence, hsequence, hpoints⟩ := exists_mem_upperSequences hsome
  refine not_isPrefixOf_of_mem_upperSequences sequence hsequence ?_ _ hentry ?_
  · rwa [hpoints, hform]
  · rw [hpoints]
    exact List.isPrefixOf_iff_prefix.mpr (List.prefix_append _ _)

/-- In small letters, a capitalized name is only an alias if it is one as it stands, or if it begins
    with a long `s`. -/
private theorem find?_lower_capitalized (hc : IsCapitalOf head tail small c)
    (htail : ∀ d ∈ tail, lowerChar d = [d]) (hrest : ∀ d ∈ rest, lowerChar d = [d])
    (hnone : standard.find? (c :: rest) = none) (hlong : c ≠ 'ſ') :
    standard.find? (lower (capitalized (c :: rest))) = none := by
  have hlower : lower (capitalized (c :: rest)) = small :: (tail ++ rest) := by
    rw [capitalized, hc.upper, List.cons_append, lower_cons_capital hc, lowerFrom_eq_self]
    exact fun d hd => (List.mem_append.mp hd).elim (htail d) (hrest d)
  rw [hlower]
  rcases hc.origin with ⟨rfl, rfl⟩ | ⟨d, hd, hbeyond⟩ | ⟨d, hd, hother⟩ | rfl | hlongS
  · exact hnone
  · refine Option.eq_none_iff_forall_ne_some.mpr fun key hkey => ?_
    have hmem : d ∈ small :: (tail ++ rest) := List.mem_append_left rest hd
    exact absurd (plain_of_mem _ (mem_entries_of_find? hkey) d hmem) (Nat.not_lt.mpr hbeyond)
  · exact absurd (htail d hd) hother
  · refine Option.eq_none_iff_forall_ne_some.mpr fun key hkey => ?_
    have hupper : upperChar 'ı' = ['I'] := by decide
    have hsmall : lowerChar 'I' = ['i'] := by decide
    obtain ⟨rfl, rfl⟩ := List.cons.inj (hupper.symm.trans hc.upper)
    obtain ⟨rfl, -⟩ := List.cons.inj (hsmall.symm.trans hc.lower_head)
    exact (eq_of_mem_of_head? _ (mem_entries_of_find? hkey)).1 rfl
  · exact absurd hlongS hlong

/-- With a long `s` as its first letter, a name becomes an alias only in `ſtate` and `ſtatus`. -/
private theorem canonical_capitalized_long (hrest : ∀ d ∈ rest, lowerChar d = [d]) :
    standard.canonical (capitalized ('ſ' :: rest)) = capitalized ('ſ' :: rest) ↔
      'ſ' :: rest ≠ "ſtatus".toList := by
  have hc : IsCapitalOf 'S' [] 's' 'ſ' := by
    refine ⟨?_, ?_, ?_, .inr (.inr (.inr (.inr rfl)))⟩ <;> decide
  have hform : capitalized ('ſ' :: rest) = 'S' :: rest := by rw [capitalized, hc.upper]; rfl
  have hlower : lower ('S' :: rest) = 's' :: rest := by
    rw [lower_cons_capital hc, lowerFrom_eq_self hrest]
  rw [hform, canonical, hlower]
  cases hfind : standard.find? ('s' :: rest) with
  | none =>
    refine iff_of_true rfl ?_
    rintro heq
    rw [(List.cons.inj heq).2] at hfind
    exact absurd hfind (by decide)
  | some key =>
    rcases (eq_of_mem_of_head? _ (mem_entries_of_find? hfind)).2 rfl with hentry | hentry
    · obtain ⟨hname, rfl⟩ := Prod.mk.inj hentry
      rw [(List.cons.inj hname).2]
      decide
    · obtain ⟨hname, rfl⟩ := Prod.mk.inj hentry
      rw [(List.cons.inj hname).2]
      decide

theorem canonical_capitalized_iff (hname : ∀ d ∈ c :: rest, lowerChar d = [d])
    (hnone : standard.find? (c :: rest) = none) :
    standard.canonical (capitalized (c :: rest)) = capitalized (c :: rest) ↔
      c :: rest ≠ "ſtatus".toList ∧ ∀ d ∈ (upperChar c).tail, lowerChar d = [d] := by
  obtain ⟨head, tail, small, hc⟩ := exists_isCapitalOf (hname c List.mem_cons_self)
  have hrest : ∀ d ∈ rest, lowerChar d = [d] := fun d hd => hname d (List.mem_cons_of_mem _ hd)
  have htailForm : (upperChar c).tail = tail := by rw [hc.upper, List.tail_cons]
  rw [htailForm]
  by_cases hlong : c = 'ſ'
  · subst hlong
    have hone : (upperChar 'ſ').tail = [] := by decide
    have htail : ∀ d ∈ tail, lowerChar d = [d] := by
      rw [← htailForm, hone]
      exact fun d hd => absurd hd List.not_mem_nil
    rw [canonical_capitalized_long hrest]
    exact (and_iff_left htail).symm
  have hstatus : c :: rest ≠ "ſtatus".toList := fun heq => hlong (List.cons.inj heq).1
  rw [and_iff_right hstatus, ← capitalized_lower_eq_iff hc hrest, canonical]
  by_cases htail : ∀ d ∈ tail, lowerChar d = [d]
  · rw [find?_lower_capitalized hc htail hrest hnone hlong, Option.getD_none]
  · have hlost := mt (capitalized_lower_eq_iff hc hrest).mp htail
    cases hfind : standard.find? (lower (capitalized (c :: rest))) with
    | none => rw [Option.getD_none]
    | some key =>
      refine iff_of_false (fun hsame => ?_) hlost
      rw [Option.getD_some] at hsame
      exact not_mem_standard_of_capitals hc htail (hsame ▸ mem_entries_of_find? hfind)

end

private theorem lower_eq_self_iff {t : Text} : lower t = t ↔ ∀ d ∈ t, lowerChar d = [d] :=
  ⟨fun hsame _ hd => lowerChar_of_mem_lower (hsame.symm ▸ hd), lower_eq_self⟩

/-- The standard key of a name stands for itself exactly if the name is a lasting one. -/
theorem canonical_canonical_eq_iff (field : Text) :
    standard.canonical (standard.canonical field) = standard.canonical field ↔
      Lasting (lower field) := by
  have hname : ∀ d ∈ lower field, lowerChar d = [d] := fun _ => lowerChar_of_mem_lower
  have hkey : standard.canonical field =
    (standard.find? (lower field)).getD (capitalized (lower field)) := rfl
  rw [hkey]
  generalize lower field = name at hname
  cases hfind : standard.find? name with
  | some key => exact lasting_iff_of_mem _ (mem_entries_of_find? hfind)
  | none =>
    rw [Option.getD_none]
    cases name with
    | nil => exact iff_of_true rfl (by decide)
    | cons c rest =>
      have hplain : c :: rest ∉ ["node".toList, "nodes".toList, "time".toList] := by
        intro hmem
        have hsome : ∀ name ∈ ["node".toList, "nodes".toList, "time".toList],
            standard.find? name ≠ none := by
          decide
        exact hsome _ hmem hfind
      have hlast : c :: rest ∉ ["node".toList, "nodes".toList, "time".toList, "ſtatus".toList] ↔
          c :: rest ≠ "ſtatus".toList := by
        have hsplit : ["node".toList, "nodes".toList, "time".toList, "ſtatus".toList] =
          ["node".toList, "nodes".toList, "time".toList] ++ ["ſtatus".toList] := rfl
        rw [hsplit, List.mem_append, or_iff_right hplain, List.mem_singleton]
      rw [canonical_capitalized_iff hname hfind, Lasting, hlast]
      simp only [List.head?_cons, Option.mem_some_iff, forall_eq', lower_eq_self_iff]

private theorem upperChar_ne_of_isLower : ∀ n : Fin 128, (Char.ofNat n).isLower →
    lowerChar (Char.ofNat n) = [Char.ofNat n] ∧ upperChar (Char.ofNat n) ≠ [Char.ofNat n] := by
  decide

private theorem not_isLower_of_mem : ∀ entry ∈ standard.entries, ∀ c ∈ entry.2.head?,
    ¬ c.isLower := by
  decide

/-- No standard key begins with a plain small letter. -/
theorem not_isLower_of_mem_head? {field : Text} {c : Char}
    (hc : c ∈ (standard.canonical field).head?) : ¬ c.isLower := by
  rw [canonical] at hc
  cases hfind : standard.find? (lower field) with
  | some key =>
    rw [hfind, Option.getD_some] at hc
    exact not_isLower_of_mem _ (mem_entries_of_find? hfind) c hc
  | none =>
    rw [hfind, Option.getD_none] at hc
    cases hname : lower field with
    | nil =>
      rw [hname] at hc
      cases hc
    | cons first rest =>
      have hsmall : lowerChar first = [first] :=
        lowerChar_of_mem_lower (hname ▸ List.mem_cons_self)
      obtain ⟨head, tail, small, hcapital⟩ := exists_isCapitalOf hsmall
      rw [hname, capitalized, hcapital.upper] at hc
      obtain rfl : head = c := Option.some.inj hc
      intro hlower
      have hplain : head.toNat < 128 := by
        have hlast : head.val ≤ 'z'.val := of_decide_eq_true (Bool.and_eq_true_iff.mp hlower).2
        exact Nat.lt_of_le_of_lt (UInt32.le_iff_toNat_le.mp hlast) (by decide)
      have hcase := upperChar_ne_of_isLower ⟨head.toNat, hplain⟩
      simp only [Char.ofNat_toNat] at hcase
      obtain ⟨hself, hupper⟩ := hcase hlower
      obtain ⟨rfl, -⟩ := List.cons.inj (hself.symm.trans hcapital.lower_head)
      exact hupper hcapital.upper_small

end RecordFilter.AliasTable
