import RecordFilter.Clause.Parser
import RecordFilter.Filter.Evaluation
import RecordFilter.Proofs.Clause.Marks

/-!
How a clause is read: which operator is found in it, and where.
-/

namespace RecordFilter

namespace Operator

/-- The signs that operators are made of. -/
def isSign (c : Char) : Bool :=
  c = '=' || c = '!' || c = '~' || c = '<' || c = '>'

theorem isSign_of_mem_text {op : Operator} (hop : op ∈ symbolic) : ∀ c ∈ op.text, isSign c := by
  simp only [symbolic, List.mem_cons, List.not_mem_nil, or_false] at hop
  rcases hop with rfl | rfl | rfl | rfl | rfl | rfl | rfl | rfl | rfl <;> decide

theorem text_ne_nil (op : Operator) : op.text ≠ [] := by
  cases op <;> decide

theorem not_isBlank_of_isSign {c : Char} (hc : isSign c) : ¬ Text.isBlank c := by
  simp only [isSign, Bool.or_eq_true, decide_eq_true_eq] at hc
  rcases hc with (((rfl | rfl) | rfl) | rfl) | rfl <;> decide

/-- The operators that a clause is searched for before this one. -/
def earlier (op : Operator) : List Operator :=
  symbolic.takeWhile (· ≠ op)

theorem symbolic_eq_append {op : Operator} (hop : op ∈ symbolic) :
    ∃ later, symbolic = op.earlier ++ op :: later := by
  simp only [symbolic, List.mem_cons, List.not_mem_nil, or_false] at hop
  rcases hop with rfl | rfl | rfl | rfl | rfl | rfl | rfl | rfl | rfl <;> exact ⟨_, rfl⟩

end Operator

namespace Expression

/-- The condition that compares a field with what a text is read as. -/
def comparing (field : Text) (op : Operator) (t : Text) : Expression :=
  ⟨field, op, .ofScalar (Scalar.read t), (Scalar.read t).kind⟩

theorem holds_comparing {field t : Text} {op : Operator} {record : Record} {x : Value}
    (hlookup : record.lookup field = some x) :
    (comparing field op t).holds record = op.holds x (.ofScalar (Scalar.read t)) := by
  simp only [holds, comparing, hlookup]

end Expression

namespace Clause

variable {aliases : AliasTable}

/-- Around an operator that is not one of lists there is such a condition. -/
theorem readPair_eq_comparing (aliases : AliasTable) (op : Operator) (before after : Text) :
    readPair aliases op before after =
      .comparing (aliases.canonical (Text.trim before)) op (unquote (Text.trim after)) :=
  rfl

/-- A text without signs before an operator is its field, whatever comes after it. -/
theorem cutAt?_append {op : Operator} {before after : Text} (hop : op ∈ Operator.symbolic)
    (hne : before ≠ []) (hbefore : ∀ c ∈ before, ¬ Operator.isSign c) :
    cutAt? (before ++ (op.text ++ after)) op = some (op, before, after) := by
  obtain ⟨c, signs, htext⟩ := List.exists_cons_of_ne_nil op.text_ne_nil
  have hc : Operator.isSign c :=
    Operator.isSign_of_mem_text hop c (by rw [htext]; exact List.mem_cons_self)
  have hclear : Text.Clear op.text before (op.text ++ after) := by
    rw [htext]
    exact Text.clear_of_not_mem fun hmem => hbefore c hmem hc
  obtain ⟨d, rest, rfl⟩ := List.exists_cons_of_ne_nil hne
  rw [cutAt?, Text.cut?_append_of_clear hclear, Text.cut?_append_self]
  simp

theorem cutAt?_eq_none {op : Operator} {clause : Text} (hoccurs : ¬ op.text <:+: clause) :
    cutAt? clause op = none := by
  rw [cutAt?, Text.cut?_eq_none_iff.mpr hoccurs]

/-- An operator that occurs in a clause is found in it, unless the clause begins with it. -/
theorem exists_cutAt?_eq_some {op : Operator} {clause : Text} (hoccurs : op.text <:+: clause)
    (hbegins : ¬ op.text <+: clause) :
    ∃ before after, cutAt? clause op = some (op, before, after) := by
  cases hcut : Text.cut? op.text clause with
  | none => exact absurd hoccurs (Text.cut?_eq_none_iff.mp hcut)
  | some found =>
    obtain ⟨before, after⟩ := found
    cases before with
    | nil =>
      have hclause := Text.eq_append_of_cut?_eq_some hcut
      exact absurd ⟨after, hclause.symm⟩ hbegins
    | cons c before => exact ⟨c :: before, after, by rw [cutAt?, hcut]⟩

theorem eq_of_cutAt?_eq_some {op found : Operator} {clause before after : Text}
    (hcut : cutAt? clause op = some (found, before, after)) : found = op := by
  rw [cutAt?] at hcut
  split at hcut
  · simpa using (Prod.mk.inj (Option.some.inj hcut)).1.symm
  · cases hcut

/-- An operator is found behind its field if those that are looked for before it do not occur in
    what follows the field. -/
theorem findSome?_cutAt? {op : Operator} {before after : Text} (hop : op ∈ Operator.symbolic)
    (hne : before ≠ []) (hbefore : ∀ c ∈ before, ¬ Operator.isSign c)
    (hearlier : ∀ other ∈ op.earlier, ¬ other.text <:+: op.text ++ after) :
    Operator.symbolic.findSome? (cutAt? (before ++ (op.text ++ after))) =
      some (op, before, after) := by
  obtain ⟨later, hsymbolic⟩ := Operator.symbolic_eq_append hop
  have hnone : op.earlier.findSome? (cutAt? (before ++ (op.text ++ after))) = none := by
    rw [List.findSome?_eq_none_iff]
    intro other hother
    have hmem : other ∈ Operator.symbolic := by
      rw [hsymbolic]
      exact List.mem_append_left _ hother
    apply cutAt?_eq_none
    intro hoccurs
    refine hearlier other hother (Text.isInfix_of_append_right ?_ hoccurs)
    intro c hc hin
    exact hbefore c hin (Operator.isSign_of_mem_text hmem c hc)
  rw [hsymbolic, List.findSome?_append, hnone, Option.none_or, List.findSome?_cons,
    cutAt?_append hop hne hbefore]

theorem eq_of_readList_eq_ok {op : Operator} {clause before after : Text} {e : Expression}
    (hread : readList aliases clause op before after = .ok e) :
    e = ⟨aliases.canonical (Text.trim before), op,
      .tuple ((listItems (Text.trim after)).map .text), .stringList⟩ := by
  unfold readList at hread
  dsimp only at hread
  split at hread
  · cases hread
  · exact (Except.ok.inj hread).symm

/-- A clause that is read has the word of a list operator in it and is read at one, or it has none
    and is read at the first of the operators that are made of signs. -/
theorem read_eq_ok_cases {clause : Text} {e : Expression} (hread : read aliases clause = .ok e) :
    (Operator.isIn.token <:+: clause ∧ ∃ op before after,
        op.takesList ∧ readList aliases clause op before after = .ok e) ∨
      ¬ Operator.isIn.token <:+: clause ∧ ∃ op before after,
        Operator.symbolic.findSome? (cutAt? clause) = some (op, before, after) ∧
          e = readPair aliases op before after := by
  have hoccurs : ∀ {op : Operator} {found : Text × Text}, Text.cut? op.token clause = some found →
      op.token <:+: clause := by
    intro op found hcut
    exact ⟨found.1, found.2, by rw [Text.eq_append_of_cut?_eq_some hcut, List.append_assoc]⟩
  rw [read] at hread
  split at hread
  · cases hread
  · split at hread
    · rename_i hcut
      exact Or.inl ⟨Operator.isIn_token_isInfix.trans (hoccurs hcut), _, _, _, rfl, hread⟩
    · split at hread
      · rename_i hcut
        exact Or.inl ⟨hoccurs hcut, _, _, _, rfl, hread⟩
      · rename_i hin
        split at hread
        · rename_i hfound
          exact Or.inr ⟨Text.cut?_eq_none_iff.mp hin, _, _, _, hfound,
            (Except.ok.inj hread).symm⟩
        · cases hread

theorem not_isBlankText {clause : Text} {c : Char} (hmem : c ∈ clause) (hc : ¬ Text.isBlank c) :
    ¬ Text.isBlankText clause := by
  rw [Text.isBlankText, List.all_eq_true]
  exact fun hall => hc (hall c hmem)

/-- A clause without list operators is read at the first of the operators that are made of
    signs. -/
theorem read_of_findSome? {clause before after : Text} {op : Operator}
    (hblank : ¬ Text.isBlankText clause) (hin : ¬ Operator.isIn.token <:+: clause)
    (hfound : Operator.symbolic.findSome? (cutAt? clause) = some (op, before, after)) :
    read aliases clause = .ok (readPair aliases op before after) := by
  have hnotIn : ¬ Operator.notIn.token <:+: clause :=
    fun hoccurs => hin (Operator.isIn_token_isInfix.trans hoccurs)
  rw [read, if_neg hblank, Text.cut?_eq_none_iff.mpr hnotIn, Text.cut?_eq_none_iff.mpr hin, hfound]

theorem read_append {op : Operator} {before after : Text} (hop : op ∈ Operator.symbolic)
    (hne : before ≠ []) (hbefore : ∀ c ∈ before, ¬ Operator.isSign c)
    (hearlier : ∀ other ∈ op.earlier, ¬ other.text <:+: op.text ++ after)
    (hin : ¬ Operator.isIn.token <:+: before ++ (op.text ++ after)) :
    read aliases (before ++ (op.text ++ after)) = .ok (readPair aliases op before after) := by
  refine read_of_findSome? ?_ hin (findSome?_cutAt? hop hne hbefore hearlier)
  obtain ⟨c, signs, htext⟩ := List.exists_cons_of_ne_nil op.text_ne_nil
  have hc : c ∈ op.text := by
    rw [htext]
    exact List.mem_cons_self
  exact not_isBlankText (List.mem_append_right _ (List.mem_append_left _ hc))
    (Operator.not_isBlank_of_isSign (Operator.isSign_of_mem_text hop c hc))

/-- A list operator behind a word is the one that the clause is read at. -/
theorem read_token {op : Operator} {before after : Text} (hop : op.takesList)
    (hbefore : ' ' ∉ before) (hblank : ∃ c ∈ before, ¬ Text.isBlank c) (hafter : ' ' ∉ after)
    (hlist : after.head? = some '(') :
    read aliases (before ++ (op.token ++ after)) =
      readList aliases (before ++ (op.token ++ after)) op before after := by
  obtain ⟨c, hc, hnot⟩ := hblank
  have hnotBlank : ¬ Text.isBlankText (before ++ (op.token ++ after)) :=
    not_isBlankText (List.mem_append_left _ hc) hnot
  have hcut : ∀ other : Operator, Text.cut? other.token (before ++ (op.token ++ after)) =
      (Text.cut? other.token (op.token ++ after)).map (Prod.map (before ++ ·) id) :=
    fun other => Text.cut?_append_of_clear (Text.clear_of_not_mem hbefore)
  obtain ⟨tail, rfl⟩ := List.head?_eq_some_iff.mp hlist
  cases op with
  | notIn =>
    rw [read, if_neg hnotBlank, hcut, Text.cut?_append_self]
    simp
  | isIn =>
    have hclear : Text.Clear Operator.notIn.token Operator.isIn.token ('(' :: tail) := by
      simp [Text.Clear, Operator.token, Operator.text, List.cons_prefix_cons]
    have hnone : Text.cut? Operator.notIn.token ('(' :: tail) = none := by
      rw [Text.cut?_eq_none_iff]
      exact fun hoccurs => hafter (hoccurs.subset List.mem_cons_self)
    rw [read, if_neg hnotBlank, hcut, Text.cut?_append_of_clear hclear, hnone, hcut,
      Text.cut?_append_self]
    simp
  | _ => cases hop

end Clause

end RecordFilter
