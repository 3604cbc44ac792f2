import RecordFilter.Filter.Basic
import RecordFilter.Proofs.Clause.Reading
import RecordFilter.Proofs.Outcome

/-!
Quotes around a value: they keep the value in one clause, but operators are looked for in the whole
clause, so that a quoted value is kept only if it has no operator that is found before the one in
front of the quotes.
-/

namespace RecordFilter

namespace Clause

/-- A clause in which the word of a list operator occurs is read at a list operator, if at all. -/
theorem takesList_of_read {aliases : AliasTable} {clause : Text} {e : Expression}
    (hoccurs : Operator.isIn.token <:+: clause) (hread : read aliases clause = .ok e) :
    e.operator.takesList := by
  rcases read_eq_ok_cases hread with ⟨-, op, before, after, hop, hlist⟩ | ⟨hin, -⟩
  · rw [eq_of_readList_eq_ok hlist]
    exact hop
  · exact absurd hoccurs hin

/-- An operator that is looked for earlier is found first wherever it stands, unless the clause
    begins with it. -/
theorem operator_mem_earlier_of_read {aliases : AliasTable} {clause : Text} {e : Expression}
    {op other : Operator} (hop : op ∈ Operator.symbolic)
    (hfirst : ∀ c, clause.head? = some c → ¬ Operator.isSign c)
    (hin : ¬ Operator.isIn.token <:+: clause) (hother : other ∈ op.earlier)
    (hoccurs : other.text <:+: clause) (hread : read aliases clause = .ok e) :
    e.operator ∈ op.earlier := by
  obtain ⟨later, hsymbolic⟩ := Operator.symbolic_eq_append hop
  have hmem : other ∈ Operator.symbolic := by
    rw [hsymbolic]
    exact List.mem_append_left _ hother
  have hbegins : ¬ other.text <+: clause := by
    rintro ⟨rest, rfl⟩
    obtain ⟨c, signs, htext⟩ := List.exists_cons_of_ne_nil other.text_ne_nil
    refine hfirst c (by rw [htext]; rfl) (Operator.isSign_of_mem_text hmem c ?_)
    rw [htext]
    exact List.mem_cons_self
  have hcut : cutAt? clause other ≠ none := by
    obtain ⟨before, after, hsome⟩ := exists_cutAt?_eq_some hoccurs hbegins
    rw [hsome]
    exact Option.some_ne_none _
  rcases read_eq_ok_cases hread with ⟨htoken, -⟩ | ⟨-, found, before, after, hfound, rfl⟩
  · exact absurd htoken hin
  · cases hearlier : op.earlier.findSome? (cutAt? clause) with
    | none => exact absurd (List.findSome?_eq_none_iff.mp hearlier other hother) hcut
    | some first =>
      rw [hsymbolic, List.findSome?_append, hearlier, Option.some_or] at hfound
      obtain ⟨candidate, hcandidate, hat⟩ := List.exists_of_findSome?_eq_some hearlier
      rw [hfound] at hat
      rw [readPair, eq_of_cutAt?_eq_some hat]
      exact hcandidate

/-- The clause that asks for a name, with the name in single quotes. -/
def namedClause (v : Text) : Text :=
  "name='".toList ++ v ++ ['\'']

theorem namedClause_eq (v : Text) :
    namedClause v = "name=".toList ++ '\'' :: (v ++ '\'' :: []) :=
  rfl

theorem replaceAll_namedClause {p r v : Text} (hp : p ≠ []) (hquote : '\'' ∉ p)
    (hname : ¬ p <:+: "name=".toList) :
    Text.replaceAll p r (namedClause v) = namedClause (Text.replaceAll p r v) := by
  rw [namedClause_eq, namedClause_eq, Text.replaceAll_append_cons hp hquote,
    Text.replaceAll_append_cons hp hquote, Text.replaceAll_eq_self hname]
  rfl

theorem protect_namedClause (v : Text) : protect (namedClause v) = namedClause (protect v) := by
  rw [protect, replaceAll_namedClause (by decide) (by decide) (by decide),
    replaceAll_namedClause (by decide) (by decide) (by decide), protect]

theorem unprotect_namedClause (v : Text) :
    unprotect (namedClause v) = namedClause (unprotect v) := by
  rw [unprotect, replaceAll_namedClause (by decide) (by decide) (by decide),
    replaceAll_namedClause (by decide) (by decide) (by decide), unprotect]

theorem isInfix_namedClause_iff {p v : Text} (hp : p ≠ []) (hquote : '\'' ∉ p)
    (hname : ¬ p <:+: "name=".toList) : p <:+: namedClause v ↔ p <:+: v := by
  rw [namedClause_eq, Text.isInfix_append_cons_iff hquote, Text.isInfix_append_cons_iff hquote,
    List.infix_nil]
  constructor
  · rintro (h | h | h)
    · exact absurd h hname
    · exact h
    · exact absurd h hp
  · exact fun h => Or.inr (Or.inl h)

theorem not_mem_protect {c : Char} {t : Text} (hc : c ∉ t) (hin : c ∉ inMark)
    (hnotIn : c ∉ notInMark) : c ∉ protect t := by
  intro hmem
  rcases Text.mem_or_mem_of_mem_replaceAll (by decide) hmem with hmem | hmem
  · rcases Text.mem_or_mem_of_mem_replaceAll (by decide) hmem with hmem | hmem
    · exact hc hmem
    · exact hnotIn hmem
  · exact hin hmem

/-- A name in quotes is one clause, whatever spaces, commas and parentheses it has. -/
theorem split_namedClause {v : Text} (hquote : '\'' ∉ v) (hback : '\\' ∉ v) :
    split (namedClause v) = [namedClause (unprotect (protect v))] := by
  have hquote := not_mem_protect hquote (by decide) (by decide)
  have hback := not_mem_protect hback (by decide) (by decide)
  have hunbroken : Unbroken {} (namedClause (protect v)) := by
    change Unbroken {} ("name='".toList ++ (protect v ++ ['\'']))
    refine unbroken_append (unbroken_of_not_mem (by decide)) ?_
    have hopen : Cursor.scan {} "name='".toList = { quote := some '\'' } := rfl
    rw [hopen]
    exact unbroken_append (unbroken_quoted hquote hback) (unbroken_of_not_mem (by decide))
  have hne : namedClause (protect v) ≠ [] := List.cons_ne_nil _ _
  rw [split, protect_namedClause, words_of_unbroken hne hunbroken, List.map_singleton,
    unprotect_namedClause]

/-- A text without the word of a list operator and without marks is as it was after splitting. -/
theorem unprotect_protect_eq_self {v : Text} (hin : ¬ Operator.isIn.token <:+: v)
    (hinMark : ¬ inMark <:+: v) (hnotInMark : ¬ notInMark <:+: v) :
    unprotect (protect v) = v := by
  rw [protect_eq_self hin, unprotect, Text.replaceAll_eq_self hnotInMark,
    Text.replaceAll_eq_self hinMark]

/-- The word of a list operator is there after splitting if it was before, though the marks that
    stand for it may have grown together with what is around them. -/
theorem isInfix_unprotect_protect {v : Text} (hoccurs : Operator.isIn.token <:+: v) :
    Operator.isIn.token <:+: unprotect (protect v) := by
  have hdisjoint : ∀ c ∈ Operator.isIn.token, c ∉ inMark := by decide
  rw [unprotect]
  by_cases hmarked : notInMark <:+: protect v
  · have hback := Text.isInfix_replaceAll (r := Operator.notIn.token) (by decide) hmarked
    exact Text.isInfix_replaceAll_of_disjoint (by decide) hdisjoint
      (Operator.isIn_token_isInfix.trans hback)
  · rw [Text.replaceAll_eq_self hmarked]
    apply Text.isInfix_replaceAll (by decide)
    by_cases hnotIn : Operator.notIn.token <:+: v
    · have hmark := Text.isInfix_replaceAll (r := notInMark) (by decide) hnotIn
      have hkept := Text.isInfix_replaceAll_of_disjoint (p := Operator.isIn.token) (r := inMark)
        (by decide) (by decide) hmark
      exact absurd hkept hmarked
    · rw [protect, Text.replaceAll_eq_self hnotIn]
      exact Text.isInfix_replaceAll (by decide) hoccurs

/-- A name in quotes that has no operator which is found first is read as it is. -/
theorem read_namedClause {v : Text} (hin : ¬ Operator.isIn.token <:+: v)
    (hearlier : ∀ other ∈ Operator.equals.earlier, ¬ other.text <:+: v) :
    read .standard (namedClause v) =
      .ok ⟨"Name".toList, .equals, .ofScalar (Scalar.read v), (Scalar.read v).kind⟩ := by
  have hsplit : namedClause v =
      "name".toList ++ (Operator.equals.text ++ ('\'' :: (v ++ ['\'']))) := rfl
  have hearlier : ∀ other ∈ Operator.equals.earlier,
      ¬ other.text <:+: Operator.equals.text ++ ('\'' :: (v ++ '\'' :: [])) := by
    intro other hother
    have hquote : ∀ other ∈ Operator.equals.earlier,
        '\'' ∉ other.text ∧ ¬ other.text <:+: Operator.equals.text ∧ ¬ other.text <:+: [] := by
      decide
    obtain ⟨hquote, hequals, hnil⟩ := hquote other hother
    rw [Text.isInfix_append_cons_iff hquote, Text.isInfix_append_cons_iff hquote, not_or, not_or]
    exact ⟨hequals, hearlier other hother, hnil⟩
  have hnotIn : ¬ Operator.isIn.token <:+: namedClause v := by
    rwa [isInfix_namedClause_iff (by decide) (by decide) (by decide)]
  have htrim : Text.trim ('\'' :: (v ++ ['\''])) = '\'' :: (v ++ ['\'']) := by
    apply Text.trimBy_eq_self
    · intro c hc
      rw [← Option.some.inj hc]
      decide
    · intro c hc
      rw [← List.cons_append, List.getLast?_append] at hc
      rw [← Option.some.inj hc]
      decide
  have hunquote : unquote ('\'' :: (v ++ ['\''])) = v := by
    simp [unquote, Cursor.isQuote]
  rw [hsplit] at hnotIn ⊢
  rw [read_append (by decide) (by decide) (by decide) hearlier hnotIn, readPair, htrim, hunquote]
  rfl

/-- Of the operators that are found before an equality, none is in a clause that is read as one. -/
theorem not_isInfix_of_read_equals {v : Text} {e : Expression}
    (hread : read .standard (namedClause v) = .ok e) (hequals : e.operator = .equals)
    (hin : ¬ Operator.isIn.token <:+: v) :
    ∀ other ∈ Operator.equals.earlier, ¬ other.text <:+: v := by
  intro other hother hoccurs
  have hshort : ∀ op ∈ Operator.equals.earlier,
      op.text ≠ [] ∧ '\'' ∉ op.text ∧ ¬ op.text <:+: "name=".toList := by decide
  obtain ⟨hne, hquote, hname⟩ := hshort other hother
  have hfirst : ∀ c, (namedClause v).head? = some c → ¬ Operator.isSign c := by
    intro c hc
    rw [← Option.some.inj hc]
    decide
  have hnotIn : ¬ Operator.isIn.token <:+: namedClause v := by
    rwa [isInfix_namedClause_iff (by decide) (by decide) (by decide)]
  have hclause := (isInfix_namedClause_iff hne hquote hname).mpr hoccurs
  have hmem := operator_mem_earlier_of_read (by decide) hfirst hnotIn hother hclause hread
  rw [hequals] at hmem
  exact absurd hmem (by decide)

end Clause

open Clause

private theorem parse_namedClause_iff {v logic : Text} {e : Expression} (hquote : '\'' ∉ v)
    (hback : '\\' ∉ v) :
    Filter.parse .standard (namedClause v) logic = .ok { expressions := [e], logic } ↔
      read .standard (namedClause (unprotect (protect v))) = .ok e := by
  rw [Filter.parse, readAll, split_namedClause hquote hback, List.mapM_cons, List.mapM_nil]
  cases read .standard (namedClause (unprotect (protect v))) with
  | error fault => exact ⟨nofun, nofun⟩
  | ok found =>
    constructor
    · intro hok
      injection hok with hfilter
      injection hfilter with hexpressions
      injection hexpressions with hfound
      rw [hfound]
    · intro hok
      rw [Except.ok.inj hok]
      rfl

/-- A name between single quotes is read as its typed value exactly if it has neither the word `in`
    between spaces nor one of the operators `!=`, `!~`, `>=`, `<=` and `=~`. Any other operator and
    any spaces, commas and parentheses may be in it. -/
theorem Filter.parse_quoted_name_iff {v : Text} (logic : Text) (hquote : '\'' ∉ v)
    (hback : '\\' ∉ v) (hinMark : ¬ inMark <:+: v) (hnotInMark : ¬ notInMark <:+: v) :
    Filter.parse .standard ("name='".toList ++ v ++ "'".toList) logic =
        .ok { expressions :=
          [⟨"Name".toList, .equals, .ofScalar (Scalar.read v), (Scalar.read v).kind⟩], logic } ↔
      ¬ Operator.isIn.token <:+: v ∧
        ∀ op ∈ [Operator.notEquals, .notContains, .greaterEqual, .lessEqual, .pattern],
          ¬ op.text <:+: v := by
  change Filter.parse .standard (namedClause v) logic = _ ↔ _
  rw [parse_namedClause_iff hquote hback]
  constructor
  · intro hok
    have hin : ¬ Operator.isIn.token <:+: v := by
      intro hoccurs
      have hkept := isInfix_unprotect_protect hoccurs
      rw [← isInfix_namedClause_iff (by decide) (by decide) (by decide)] at hkept
      have htakes : Operator.equals.takesList := takesList_of_read hkept hok
      exact absurd htakes (by decide)
    rw [unprotect_protect_eq_self hin hinMark hnotInMark] at hok
    exact ⟨hin, not_isInfix_of_read_equals hok rfl hin⟩
  · rintro ⟨hin, hearlier⟩
    rw [unprotect_protect_eq_self hin hinMark hnotInMark]
    exact read_namedClause hin hearlier

/-- Spaces, a comma, a parenthesis that is left open and a single sign are all kept. -/
theorem Filter.parse_quoted_name_of_spaces :
    let v := "a = (b, c".toList
    Filter.parse .standard ("name='".toList ++ v ++ "'".toList) Filter.orLogic =
      .ok { expressions := [⟨"Name".toList, .equals, .text v, .string⟩],
            logic := Filter.orLogic } := by
  intro v
  have hread : Scalar.read v = .string v := by decide
  have hparse := (Filter.parse_quoted_name_iff (v := v) Filter.orLogic (by decide) (by decide)
    (by decide +kernel) (by decide +kernel)).mpr ⟨by decide +kernel, by decide +kernel⟩
  rw [hread] at hparse
  exact hparse

/-- The operator inside of the quotes is found, so that the quotes end up in the field and in the
    value. -/
theorem Filter.parse_quoted_name_of_greaterEqual :
    let v := "a>=b".toList
    let parsed := Filter.parse .standard ("name='".toList ++ v ++ "'".toList)
    '\'' ∉ v ∧ '\\' ∉ v ∧ ¬ inMark <:+: v ∧ ¬ notInMark <:+: v ∧
      parsed = .ok { expressions :=
        [⟨"Name='a".toList, .greaterEqual, .text "b'".toList, .string⟩] } ∧
      parsed ≠ .ok { expressions :=
        [⟨"Name".toList, .equals, .ofScalar (Scalar.read v), (Scalar.read v).kind⟩] } := by
  intro v parsed
  have hparsed : parsed = .ok { expressions :=
      [⟨"Name='a".toList, .greaterEqual, .text "b'".toList, .string⟩] } := rfl
  refine ⟨by decide, by decide, by decide, by decide, hparsed, ?_⟩
  rw [hparsed]
  intro heq
  injection heq with hfilter
  injection hfilter with hexpressions
  injection hexpressions with hexpression
  injection hexpression with hfield hoperator
  cases hoperator

end RecordFilter
