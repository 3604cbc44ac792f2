import RecordFilter.Proofs.Clause.Lists

/-!
Clauses that compare a field with one word, alone and next to each other.
-/

namespace RecordFilter

namespace Clause

/-- A text without blanks, without what quotes or encloses, and without the two low lines that a
    mark begins with. -/
structure Bare (t : Text) : Prop where
  not_isBlank : ∀ c ∈ t, ¬ Text.isBlank c
  isPlain : ∀ c ∈ t, Cursor.isPlain c
  unmarked : ¬ ['_', '_'] <:+: t

/-- A bare text without the signs of operators. -/
structure Word (t : Text) : Prop extends Bare t where
  not_isSign : ∀ c ∈ t, ¬ Operator.isSign c

theorem Bare.solid {t : Text} (ht : Bare t) : Solid t :=
  ⟨ht.not_isBlank, ht.unmarked⟩

theorem Bare.space_not_mem {t : Text} (ht : Bare t) : ' ' ∉ t :=
  ht.solid.space_not_mem

theorem Bare.not_isParenthesis {t : Text} (ht : Bare t) : ∀ c ∈ t, ¬ isParenthesis c := by
  intro c hc
  obtain ⟨-, -, -, hleft, hright⟩ := Cursor.isPlain_iff.mp (ht.isPlain c hc)
  simp [isParenthesis, hleft, hright]

/-- Items without parentheses lose nothing at the ends of their list. -/
theorem withoutOuter_of_bare {items : List Text} (hitems : ∀ item ∈ items, Bare item) :
    withoutOuter items = items := by
  refine withoutOuter_eq_self_iff.mpr ⟨fun first hfirst c hc => ?_, fun last hlast c hc => ?_⟩
  · exact (hitems first (List.mem_of_head? hfirst)).not_isParenthesis c (List.mem_of_head? hc)
  · exact (hitems last (List.mem_of_getLast? hlast)).not_isParenthesis c (List.mem_of_getLast? hc)

theorem Bare.unquote_eq {t : Text} (ht : Bare t) : unquote t = t := by
  cases t with
  | nil => rfl
  | cons c t =>
    have hplain := ht.isPlain c List.mem_cons_self
    have hquote : Cursor.isQuote c = false := by
      cases h : Cursor.isQuote c with
      | false => rfl
      | true => simp [Cursor.isPlain, h] at hplain
    simp [unquote, hquote]

theorem Word.readPair_eq {t before : Text} {op : Operator} {aliases : AliasTable} (ht : Word t)
    (hbefore : Word before) :
    readPair aliases op before t = .comparing (aliases.canonical before) op t := by
  rw [readPair_eq_comparing, ht.solid.trim_eq, ht.unquote_eq, hbefore.solid.trim_eq]

/-- No operator that is looked for earlier begins in the operator of a word. -/
theorem Word.not_isInfix_earlier {t : Text} {op : Operator} (ht : Word t)
    (hop : op ∈ Operator.symbolic) :
    ∀ other ∈ op.earlier, ¬ other.text <:+: op.text ++ t := by
  intro other hother hoccurs
  have hsymbolic : other ∈ Operator.symbolic := (List.takeWhile_sublist _).subset hother
  have hsigns : ∀ c ∈ other.text, c ∉ t :=
    fun c hc hmem => ht.not_isSign c hmem (Operator.isSign_of_mem_text hsymbolic c hc)
  have hop : ∀ op ∈ Operator.symbolic, ∀ other ∈ op.earlier, ¬ other.text <:+: op.text := by decide
  exact hop _ ‹_› _ hother (Text.isInfix_of_append_left hsigns hoccurs)

theorem isPlain_of_isSign {c : Char} (hc : Operator.isSign c) : Cursor.isPlain c := by
  refine Cursor.isPlain_iff.mpr ⟨?_, ?_, ?_, ?_, ?_⟩ <;> rintro rfl <;> exact absurd hc (by decide)

variable {aliases : AliasTable} {op : Operator} {field v : Text}

/-- A word, an operator and another word are one bare text. -/
theorem bare_comparison (hop : op ∈ Operator.symbolic) (hfield : Word field) (hv : Word v) :
    Bare (field ++ (op.text ++ v)) := by
  have hsign := Operator.isSign_of_mem_text hop
  have hall {P : Char → Prop} (hbefore : ∀ c ∈ field, P c) (hop : ∀ c ∈ op.text, P c)
      (hafter : ∀ c ∈ v, P c) : ∀ c ∈ field ++ (op.text ++ v), P c :=
    List.forall_mem_append.mpr ⟨hbefore, List.forall_mem_append.mpr ⟨hop, hafter⟩⟩
  refine ⟨?_, ?_, fun hoccurs => ?_⟩
  · exact hall hfield.not_isBlank (fun c hc => Operator.not_isBlank_of_isSign (hsign c hc))
      hv.not_isBlank
  · exact hall hfield.isPlain (fun c hc => isPlain_of_isSign (hsign c hc)) hv.isPlain
  · -- No low line is a sign, so two next to each other lie on one side of the operator.
    obtain ⟨c, signs, htext⟩ := List.exists_cons_of_ne_nil op.text_ne_nil
    have hlow : '_' ∉ op.text := fun hmem => absurd (hsign '_' hmem) (by decide)
    rw [htext, List.mem_cons, not_or] at hlow
    rw [htext, List.cons_append,
      Text.isInfix_append_cons_iff (by simpa using Ne.symm hlow.1)] at hoccurs
    rcases hoccurs with hoccurs | hoccurs
    · exact hfield.unmarked hoccurs
    · exact hv.unmarked (Text.isInfix_of_append_right (by simpa using hlow.2) hoccurs)

theorem read_comparison (hop : op ∈ Operator.symbolic) (hne : field ≠ []) (hfield : Word field)
    (hv : Word v) :
    read aliases (field ++ (op.text ++ v)) = .ok (.comparing (aliases.canonical field) op v) := by
  have hspace : ' ' ∉ field ++ (op.text ++ v) := (bare_comparison hop hfield hv).space_not_mem
  rw [read_append hop hne hfield.not_isSign (hv.not_isInfix_earlier hop)
    fun hoccurs => hspace (hoccurs.subset List.mem_cons_self), hv.readPair_eq hfield]

/-- Bare clauses that are joined by spaces come apart again, unless one of them is the word of a
    list operator. -/
theorem split_join_of_bare {clauses : List Text} (hne : ∀ clause ∈ clauses, clause ≠ [])
    (hbare : ∀ clause ∈ clauses, Bare clause) (hin : Operator.isIn.text ∉ clauses) :
    split (Text.join [' '] clauses) = clauses := by
  have hspace : ∀ clause ∈ clauses, ' ' ∉ clause :=
    fun clause hclause => (hbare clause hclause).space_not_mem
  have htoken : ¬ Operator.isIn.token <:+: Text.join [' '] clauses :=
    fun hoccurs => hin (Text.mem_of_isInfix_join hspace (by decide) hoccurs)
  have hopen : ∀ clause ∈ clauses.dropLast, (Cursor.scan {} clause).isOpen := by
    intro clause hclause
    have hscan : Cursor.scan {} clause = {} :=
      Cursor.scan_of_isPlain (hbare clause (List.dropLast_subset _ hclause)).isPlain
    rw [hscan]
    rfl
  have hwords := words_join hne (fun clause hclause => unbroken_of_not_mem (hspace clause hclause))
    hopen
  have hback : clauses.map unprotect = clauses.map id :=
    List.map_congr_left fun clause hclause => unprotect_eq_self (hbare clause hclause).unmarked
  rw [split, protect_eq_self htoken, hwords, hback, List.map_id]

/-- The clauses that compare a field with each of some words. -/
def comparisons (field : Text) (op : Operator) (words : List Text) : List Text :=
  words.map fun v => field ++ (op.text ++ v)

theorem split_comparisons {words : List Text} (hop : op ∈ Operator.symbolic) (hne : field ≠ [])
    (hfield : Word field) (hwords : ∀ v ∈ words, Word v) :
    split (Text.join [' '] (comparisons field op words)) = comparisons field op words := by
  apply split_join_of_bare
  · intro clause hclause
    obtain ⟨v, -, rfl⟩ := List.mem_map.mp hclause
    simp [hne]
  · intro clause hclause
    obtain ⟨v, hv, rfl⟩ := List.mem_map.mp hclause
    exact bare_comparison hop hfield (hwords v hv)
  · -- The word of a list operator has no signs, and each clause has some.
    intro hmem
    obtain ⟨v, -, heq⟩ := List.mem_map.mp hmem
    obtain ⟨c, hc⟩ := List.exists_mem_of_ne_nil op.text op.text_ne_nil
    have hletter : ∀ c ∈ Operator.isIn.text, ¬ Operator.isSign c := by decide
    refine hletter c ?_ (Operator.isSign_of_mem_text hop c hc)
    rw [← heq]
    exact List.mem_append_right _ (List.mem_append_left _ hc)

end Clause

open Clause

theorem Filter.parse_comparisons {aliases : AliasTable} {op : Operator} {field : Text}
    {words : List Text} (hop : op ∈ Operator.symbolic) (hne : field ≠ []) (hfield : Word field)
    (hwords : ∀ v ∈ words, Word v) (logic : Text) (name description : Option Text) :
    Filter.parse aliases (Text.join [' '] (comparisons field op words)) logic name description =
      .ok ⟨words.map (.comparing (aliases.canonical field) op), logic, name, description⟩ := by
  have hread : (comparisons field op words).mapM (read aliases) =
      .ok (words.map (.comparing (aliases.canonical field) op)) := by
    rw [comparisons, mapM_eq_ok_iff, List.forall₂_map_left_iff, List.forall₂_map_right_iff,
      List.forall₂_same]
    exact fun v hv => read_comparison hop hne hfield (hwords v hv)
  rw [Filter.parse, readAll, split_comparisons hop hne hfield hwords, hread]
  rfl

end RecordFilter
