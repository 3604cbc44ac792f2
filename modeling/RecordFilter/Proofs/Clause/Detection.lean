import RecordFilter.Proofs.Clause.Names
import RecordFilter.Proofs.Clause.Quotes

/-!
Detection: at which operator a clause is read.

The operators made of signs are looked for one after the other in the whole clause. Behind a field
without signs an operator is found exactly if none of those that are looked for before it begins
where it begins or stands behind it, be it in the value or across the place where both meet.
-/

namespace RecordFilter.Clause

/-- The text without one layer of equal quotes around it, if there is one. -/
inductive Unquoted : Text → Text → Prop
  | quoted {q : Char} {t : Text} (hq : Cursor.isQuote q) : Unquoted (q :: (t ++ [q])) t
  | bare {t : Text} (ht : ∀ q inner, Cursor.isQuote q → t ≠ q :: (inner ++ [q])) : Unquoted t t

theorem unquote_quoted {q : Char} (hq : Cursor.isQuote q) (t : Text) :
    unquote (q :: (t ++ [q])) = t := by
  simp [unquote, hq]

theorem unquote_bare {t : Text} (ht : ∀ q inner, Cursor.isQuote q → t ≠ q :: (inner ++ [q])) :
    unquote t = t := by
  cases t with
  | nil => rfl
  | cons q rest =>
    rw [unquote, if_neg]
    intro hquotes
    rw [Bool.and_eq_true, decide_eq_true_eq] at hquotes
    obtain ⟨hq, hlast⟩ := hquotes
    obtain ⟨inner, rfl⟩ := List.getLast?_eq_some_iff.mp hlast
    exact ht q inner hq rfl

theorem unquoted_iff {t inner : Text} : Unquoted t inner ↔ unquote t = inner := by
  constructor
  · intro h
    cases h with
    | quoted hq => exact unquote_quoted hq inner
    | bare ht => exact unquote_bare ht
  · rintro rfl
    by_cases hquoted : ∃ q inner, Cursor.isQuote q ∧ t = q :: (inner ++ [q])
    · obtain ⟨q, inner, hq, rfl⟩ := hquoted
      rw [unquote_quoted hq]
      exact .quoted hq
    · push Not at hquoted
      rw [unquote_bare hquoted]
      exact .bare hquoted

theorem not_mem_earlier (op : Operator) : op ∉ op.earlier := by
  cases op <;> decide

variable {aliases : AliasTable} {op : Operator} {field v : Text}

/-- Where an operator that is looked for earlier stands behind the field, the clause is read at it,
    or at another one that is looked for earlier than the one that follows the field. -/
theorem exists_read_mem_earlier {other : Operator} (hop : op ∈ Operator.symbolic)
    (hne : field ≠ []) (hfield : ∀ c ∈ field, ¬ Operator.isSign c)
    (hin : ¬ Operator.isIn.token <:+: field ++ (op.text ++ v)) (hother : other ∈ op.earlier)
    (hoccurs : other.text <:+: op.text ++ v) :
    ∃ e, read aliases (field ++ (op.text ++ v)) = .ok e ∧ e.operator ∈ op.earlier := by
  have hclause : other.text <:+: field ++ (op.text ++ v) := List.infix_append_of_infix_right hoccurs
  obtain ⟨first, rest, rfl⟩ := List.exists_cons_of_ne_nil hne
  have hfirst : ∀ c, (first :: rest ++ (op.text ++ v)).head? = some c → ¬ Operator.isSign c := by
    intro c hc
    obtain rfl : first = c := Option.some.inj hc
    exact hfield first List.mem_cons_self
  cases hread : read aliases (first :: rest ++ (op.text ++ v)) with
  | ok e => exact ⟨e, rfl, operator_mem_earlier_of_read hop hfirst hin hother hclause hread⟩
  | error fault =>
    -- Only an operator at the very beginning is passed over, and the field begins without signs.
    have hsymbolic : other ∈ Operator.symbolic := (List.takeWhile_sublist _).subset hother
    obtain ⟨s, signs, htext, hs⟩ := Operator.exists_text_eq_cons hsymbolic
    have hmem : s ∈ first :: rest ++ (op.text ++ v) :=
      hclause.subset (htext ▸ List.mem_cons_self)
    have hblank := not_isBlankText hmem (Operator.not_isBlank_of_isSign hs)
    obtain ⟨-, hbegins⟩ := (read_eq_error_iff_of_not_isInfix hblank hin).mp hread
    have hfound := hbegins other hsymbolic hclause
    rw [htext, List.cons_append] at hfound
    obtain ⟨rfl, -⟩ := List.cons_prefix_cons.mp hfound
    exact absurd hs (hfield s List.mem_cons_self)

/-- Around the operator behind a field without signs a clause is read as the field and the typed
    value, without blanks at their ends and without one layer of quotes around the value, if and
    only if no operator that is looked for earlier is in the operator and the value. Otherwise it is
    read at an earlier one, so that it has another meaning and is not rejected. -/
theorem read_behind_field_iff (aliases : AliasTable) (hop : op ∈ Operator.symbolic)
    (hne : field ≠ []) (hfield : ∀ c ∈ field, ¬ Operator.isSign c)
    (hin : ¬ Operator.isIn.token <:+: field ++ (op.text ++ v)) :
    ((∃ inner, Unquoted (Text.trim v) inner ∧ read aliases (field ++ (op.text ++ v)) =
        .ok (.comparing (aliases.canonical (Text.trim field)) op inner)) ↔
      ∀ other ∈ op.earlier, ¬ other.text <:+: op.text ++ v) ∧
    ((∃ other ∈ op.earlier, other.text <:+: op.text ++ v) →
      ∃ e, read aliases (field ++ (op.text ++ v)) = .ok e ∧ e.operator ∈ op.earlier) := by
  refine ⟨⟨?_, fun hearlier => ?_⟩, ?_⟩
  · rintro ⟨inner, -, hread⟩ other hother hoccurs
    obtain ⟨e, hfound, hmem⟩ := exists_read_mem_earlier hop hne hfield hin hother hoccurs
    rw [hread] at hfound
    rw [← Except.ok.inj hfound] at hmem
    exact not_mem_earlier op hmem
  · refine ⟨_, unquoted_iff.mpr rfl, ?_⟩
    rw [read_append hop hne hfield hearlier hin, readPair_eq_comparing]
  · rintro ⟨other, hother, hoccurs⟩
    exact exists_read_mem_earlier hop hne hfield hin hother hoccurs

/-- The value of a pattern may have an equals sign in it and quotes around it, but an order in the
    value of an equality is found first. -/
theorem read_behind_field_of_pattern :
    read .standard "name =~ 'a=b'".toList = .ok (.comparing "Name".toList .pattern "a=b".toList) ∧
      ∃ e, read .standard "name=a<=b".toList = .ok e ∧ e.operator ∈ Operator.equals.earlier := by
  constructor
  · have hin : ¬ Operator.isIn.token <:+:
        "name ".toList ++ (Operator.pattern.text ++ " 'a=b'".toList) := by
      decide +kernel
    have hpattern := read_behind_field_iff .standard (by decide) (by decide) (by decide) hin
    obtain ⟨inner, hquotes, hread⟩ := hpattern.1.mpr (by decide +kernel)
    obtain rfl : "a=b".toList = inner := unquoted_iff.mp hquotes
    exact hread
  · have hin : ¬ Operator.isIn.token <:+:
        "name".toList ++ (Operator.equals.text ++ "a<=b".toList) := by
      decide +kernel
    have hequals := read_behind_field_iff .standard (by decide) (by decide) (by decide) hin
    exact hequals.2 ⟨.lessEqual, by decide, by decide +kernel⟩

end RecordFilter.Clause
