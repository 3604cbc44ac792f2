import RecordFilter.Filter.Basic
import RecordFilter.Proofs.Clause.Rejection
import RecordFilter.Proofs.Text.Case

/-!
Fields of expressions: what stands before the operator that a clause is read at.

Operators are looked for in a fixed order and not from the left, so that one that is found late may
stand in the field. The field is a name without operator signs exactly if the clause has such a name
before an operator and nothing behind the name that is looked for earlier (`ReadBehindName`).
-/

namespace RecordFilter

theorem Operator.isUncased_of_isSign {c : Char} (hc : isSign c) : Text.isUncased c := by
  simp only [isSign, Bool.or_eq_true, decide_eq_true_eq] at hc
  rcases hc with (((rfl | rfl) | rfl) | rfl) | rfl <;> decide

theorem Operator.exists_text_eq_cons {op : Operator} (hop : op ∈ symbolic) :
    ∃ c signs, op.text = c :: signs ∧ isSign c := by
  obtain ⟨c, signs, htext⟩ := List.exists_cons_of_ne_nil op.text_ne_nil
  exact ⟨c, signs, htext, isSign_of_mem_text hop c (htext ▸ List.mem_cons_self)⟩

namespace AliasTable

private theorem standard_uncased : ∀ entry ∈ standard.entries,
    entry.2 ≠ [] ∧ (∀ c ∈ entry.1, ¬ Operator.isSign c) ∧ ∀ c ∈ entry.2, ¬ Operator.isSign c := by
  decide

private theorem mem_capitalized_iff {c : Char} (hc : Text.isUncased c) {t : Text} :
    c ∈ capitalized t ↔ c ∈ t := by
  cases t with
  | nil => rfl
  | cons d t => rw [capitalized, List.mem_append, Text.mem_upperChar_iff hc, List.mem_cons]

private theorem capitalized_eq_nil_iff {t : Text} : capitalized t = [] ↔ t = [] := by
  cases t with
  | nil => rfl
  | cons c t => simp [capitalized, Text.upperChar_ne_nil]

/-- The standard key of a name has the signs that the name has. -/
theorem mem_canonical_standard_iff {c : Char} (hc : Operator.isSign c) {field : Text} :
    c ∈ standard.canonical field ↔ c ∈ field := by
  have huncased := Operator.isUncased_of_isSign hc
  rw [canonical]
  cases hfind : standard.find? (Text.lower field) with
  | none => exact (mem_capitalized_iff huncased).trans (Text.mem_lower_iff huncased)
  | some key =>
    obtain ⟨before, after, hsplit, -⟩ := List.lookup_eq_some_iff.mp hfind
    have hentry : (Text.lower field, key) ∈ standard.entries := by
      rw [hsplit]
      exact List.mem_append_right _ List.mem_cons_self
    obtain ⟨-, hname, hkey⟩ := standard_uncased _ hentry
    refine iff_of_false (fun hmem => hkey c hmem hc) fun hmem => ?_
    exact hname c ((Text.mem_lower_iff huncased).mpr hmem) hc

theorem canonical_standard_eq_nil_iff {field : Text} :
    standard.canonical field = [] ↔ field = [] := by
  rw [canonical]
  cases hfind : standard.find? (Text.lower field) with
  | none => exact capitalized_eq_nil_iff.trans Text.lower_eq_nil_iff
  | some key =>
    obtain ⟨before, after, hsplit, hfirst⟩ := List.lookup_eq_some_iff.mp hfind
    have hentry : (Text.lower field, key) ∈ standard.entries := by
      rw [hsplit]
      exact List.mem_append_right _ List.mem_cons_self
    have hnil : standard.find? (Text.lower []) = none := rfl
    refine iff_of_false (standard_uncased _ hentry).1 ?_
    rintro rfl
    rw [hnil] at hfind
    cases hfind

end AliasTable

namespace Clause

/-- Apart from white space the clause begins with something that is no operator sign. -/
def BeginsWithName (clause : Text) : Prop :=
  ∃ c rest, clause.dropWhile Text.isBlank = c :: rest ∧ ¬ Operator.isSign c

/-- A clause with a text free of operator signs before the operator that it is read at. -/
inductive ReadBehindName (clause : Text) : Prop
  | list {op : Operator} {before after : Text} (hlist : ListAt clause op before after)
      (hbefore : ∀ c ∈ before, ¬ Operator.isSign c)
  /-- Nothing that is looked for before the operator begins where it begins or stands behind it. -/
  | signs {op : Operator} {before after : Text} (hlist : ¬ Operator.isIn.token <:+: clause)
      (hop : op ∈ Operator.symbolic) (hclause : clause = before ++ (op.text ++ after))
      (hne : before ≠ []) (hbefore : ∀ c ∈ before, ¬ Operator.isSign c)
      (hearlier : ∀ other ∈ op.earlier, ¬ other.text <:+: op.text ++ after)

variable {clause before after : Text} {op : Operator} {e : Expression}

/-- The operator that is found in a clause is behind something, and one that is looked for before it
    can only begin the clause. -/
theorem eq_append_of_findSome?
    (hfound : Operator.symbolic.findSome? (cutAt? clause) = some (op, before, after)) :
    op ∈ Operator.symbolic ∧ before ≠ [] ∧ clause = before ++ (op.text ++ after) ∧
      ∀ other ∈ op.earlier, other.text <:+: clause → other.text <+: clause := by
  obtain ⟨first, found, last, hsymbolic, hcut, hfirst⟩ := List.findSome?_eq_some_iff.mp hfound
  obtain rfl := eq_of_cutAt?_eq_some hcut
  have hearlier : op.earlier <+: first := by
    rw [Operator.earlier, hsymbolic, List.takeWhile_append]
    split
    · simp
    · exact List.takeWhile_prefix _
  refine ⟨by rw [hsymbolic]; simp, ?_, ?_, fun other hother => ?_⟩
  · rw [cutAt?] at hcut
    split at hcut
    · have hbefore := (Prod.mk.inj (Prod.mk.inj (Option.some.inj hcut)).2).1
      rw [← hbefore]
      exact List.cons_ne_nil _ _
    · cases hcut
  · rw [cutAt?] at hcut
    split at hcut
    · rename_i hat
      obtain ⟨rfl, rfl⟩ := Prod.mk.inj (Prod.mk.inj (Option.some.inj hcut)).2
      exact Text.eq_append_of_cut?_eq_some hat
    · cases hcut
  · exact cutAt?_eq_none_iff.mp (hfirst other (hearlier.subset hother))

theorem trim_ne_nil_of_readList {aliases : AliasTable}
    (hread : readList aliases clause op before after = .ok e) : Text.trim before ≠ [] := by
  intro hnil
  have hfails : readList aliases clause op before after = .error (missingSide op clause) :=
    readList_eq_error_iff.mpr ⟨rfl, Or.inl hnil⟩
  rw [hfails] at hread
  cases hread

/-- How a clause is read: around a list operator, or around the operator that is found first. -/
theorem read_eq_ok_cases_at {aliases : AliasTable} (hread : read aliases clause = .ok e) :
    (∃ op before after, ListAt clause op before after ∧
        readList aliases clause op before after = .ok e) ∨
      ¬ Operator.isIn.token <:+: clause ∧ ∃ op before after,
        Operator.symbolic.findSome? (cutAt? clause) = some (op, before, after) ∧
          e = readPair aliases op before after := by
  rcases read_eq_ok_cases hread with ⟨hin, -⟩ | hsigns
  · have hblank : ¬ Text.isBlankText clause := by
      intro hblank
      rw [read, if_pos hblank] at hread
      cases hread
    rcases exists_listAt_or_not_isInfix clause with ⟨op, before, after, hlist⟩ | hnone
    · rw [read_eq_of_listAt hblank hlist] at hread
      exact Or.inl ⟨op, before, after, hlist, hread⟩
    · exact absurd hin hnone
  · exact Or.inr hsigns

private theorem forall_canonical_trim_iff :
    (∀ c ∈ AliasTable.standard.canonical (Text.trim before), ¬ Operator.isSign c) ↔
      ∀ c ∈ before, ¬ Operator.isSign c := by
  refine forall_congr' fun c => ?_
  by_cases hc : Operator.isSign c
  · rw [AliasTable.mem_canonical_standard_iff hc,
      Text.mem_trim_iff (Operator.not_isBlank_of_isSign hc)]
  · exact iff_of_true (fun _ => hc) fun _ => hc

/-- A field is free of operator signs exactly if it is a name of its clause. -/
theorem field_signless_iff (hread : read .standard clause = .ok e) :
    (∀ c ∈ e.field, ¬ Operator.isSign c) ↔ ReadBehindName clause := by
  rcases read_eq_ok_cases_at hread with
    ⟨op, before, after, hlist, hok⟩ | ⟨hin, op, before, after, hfound, rfl⟩
  · rw [eq_of_readList_eq_ok hok, forall_canonical_trim_iff]
    constructor
    · exact fun hbefore => .list hlist hbefore
    · intro hname
      cases hname with
      | list hother hbefore =>
        obtain ⟨-, rfl, -⟩ := hlist.unique hother
        exact hbefore
      | signs hnot => exact absurd hlist.isInfix hnot
  · obtain ⟨hop, hne, hclause, hearlier⟩ := eq_append_of_findSome? hfound
    rw [readPair, forall_canonical_trim_iff]
    constructor
    · intro hbefore
      refine .signs hin hop hclause hne hbefore fun other hother hoccurs => ?_
      have hbegins := hearlier other hother
        (hclause ▸ List.infix_append_of_infix_right hoccurs)
      obtain ⟨later, hsymbolic⟩ := Operator.symbolic_eq_append hop
      have hmem : other ∈ Operator.symbolic := by
        rw [hsymbolic]
        exact List.mem_append_left _ hother
      obtain ⟨c, signs, htext, hc⟩ := Operator.exists_text_eq_cons hmem
      obtain ⟨d, rest, rfl⟩ := List.exists_cons_of_ne_nil hne
      rw [htext, hclause, List.cons_append] at hbegins
      have hsame := (List.cons_prefix_cons.mp hbegins).1
      exact hbefore d List.mem_cons_self (hsame ▸ hc)
    · intro hname
      cases hname with
      | list hlist => exact absurd hlist.isInfix hin
      | signs _ hother hsplit hother_ne hbefore hfirst =>
        have hagain := findSome?_cutAt? hother hother_ne hbefore hfirst
        rw [← hsplit, hfound] at hagain
        obtain ⟨-, hpair⟩ := Prod.mk.inj (Option.some.inj hagain)
        rw [(Prod.mk.inj hpair).1]
        exact hbefore

/-- A field of a clause that begins with a name is not empty. -/
theorem field_ne_nil (hread : read .standard clause = .ok e) (hname : BeginsWithName clause) :
    e.field ≠ [] := by
  rcases read_eq_ok_cases_at hread with
    ⟨op, before, after, -, hok⟩ | ⟨-, op, before, after, hfound, rfl⟩
  · rw [eq_of_readList_eq_ok hok]
    exact mt AliasTable.canonical_standard_eq_nil_iff.mp (trim_ne_nil_of_readList hok)
  · obtain ⟨hop, -, hclause, -⟩ := eq_append_of_findSome? hfound
    obtain ⟨c, rest, hfirst, hc⟩ := hname
    apply mt AliasTable.canonical_standard_eq_nil_iff.mp
    intro hnil
    obtain ⟨lead, tail, hsplit, hlead, htail⟩ := Text.exists_eq_append_trim before
    have hblank : ∀ d ∈ before, Text.isBlank d := by
      rw [hsplit, hnil, List.nil_append]
      exact fun d hd => (List.mem_append.mp hd).elim (hlead d) (htail d)
    obtain ⟨d, signs, htext, hd⟩ := Operator.exists_text_eq_cons hop
    rw [hclause, List.dropWhile_append_of_pos hblank, htext, List.cons_append,
      List.dropWhile_cons_of_neg (Operator.not_isBlank_of_isSign hd)] at hfirst
    exact hc ((List.cons.inj hfirst).1 ▸ hd)

theorem field_ne_nil_of_takesList (hread : read .standard clause = .ok e)
    (hlist : e.operator.takesList) : e.field ≠ [] := by
  rcases read_eq_ok_cases_at hread with
    ⟨op, before, after, -, hok⟩ | ⟨-, op, before, after, hfound, rfl⟩
  · rw [eq_of_readList_eq_ok hok]
    exact mt AliasTable.canonical_standard_eq_nil_iff.mp (trim_ne_nil_of_readList hok)
  · have hsigns : ∀ other ∈ Operator.symbolic, ¬ other.takesList := by decide
    exact absurd hlist (hsigns op (eq_append_of_findSome? hfound).1)

/-- An operator of one sign that begins a clause is not read if nothing in the clause is one
    otherwise. -/
theorem read_single_sign {aliases : AliasTable} {v : Text}
    (hop : op ∈ [Operator.equals, .contains, .greater, .less])
    (hv : ∀ other ∈ Operator.symbolic, ¬ other.text <:+: v)
    (hin : ¬ Operator.isIn.token <:+: op.text ++ v) :
    read aliases (op.text ++ v) = .error (noOperator (op.text ++ v)) := by
  obtain ⟨s, htext, hs⟩ : ∃ s, op.text = [s] ∧ ¬ Text.isBlank s := by
    simp only [List.mem_cons, List.not_mem_nil, or_false] at hop
    rcases hop with rfl | rfl | rfl | rfl <;> exact ⟨_, rfl, by decide⟩
  rw [htext, List.singleton_append] at hin ⊢
  refine (read_eq_error_iff_of_not_isInfix (not_isBlankText List.mem_cons_self hs) hin).mpr
    ⟨rfl, fun other hother hoccurs => ?_⟩
  exact (List.infix_cons_iff.mp hoccurs).resolve_right (hv other hother)

end Clause

open Clause

/-- With the standard aliases every clause that begins with a name has a field that is not empty, as
    has every clause with a list. The field is free of operator signs exactly if a text free of them
    stands before a list operator, or before an operator behind which nothing is looked for earlier.
    An operator of one sign at the beginning of a clause without others makes it no clause. -/
theorem Filter.field_names_of_parse :
    (∀ {text logic : Text} {name description : Option Text} {f : Filter},
      Filter.parse .standard text logic name description = .ok f →
      List.Forall₂ (fun clause e => (e.operator.takesList → e.field ≠ []) ∧
          (BeginsWithName clause → e.field ≠ [] ∧
            ((∀ c ∈ e.field, ¬ Operator.isSign c) ↔ ReadBehindName clause)))
        (split text) f.expressions) ∧
      ∀ op ∈ [Operator.equals, .contains, .greater, .less], ∀ v : Text,
        (∀ other ∈ Operator.symbolic, ¬ other.text <:+: v) →
        ¬ Operator.isIn.token <:+: op.text ++ v →
        read .standard (op.text ++ v) = .error (noOperator (op.text ++ v)) := by
  refine ⟨?_, fun op hop v hv hin => read_single_sign hop hv hin⟩
  intro text logic name description f hparse
  rw [Filter.parse, map_eq_ok_iff] at hparse
  obtain ⟨expressions, hread, rfl⟩ := hparse
  refine (mapM_eq_ok_iff.mp hread).imp fun clause e hclause => ?_
  refine ⟨field_ne_nil_of_takesList hclause, fun hname => ?_⟩
  exact ⟨field_ne_nil hclause hname, field_signless_iff hclause⟩

/-- The first clause is read at the second of its operators, and a third one begins a clause. -/
theorem Filter.field_names_of_late_operator :
    let text := "a<b!=c user in (x,y)".toList
    let f : Filter := { expressions := [⟨"A<b".toList, .notEquals, .text "c".toList, .string⟩,
      ⟨"User".toList, .isIn, .tuple [.text "x".toList, .text "y".toList], .stringList⟩] }
    Filter.parse .standard text = .ok f ∧ split text = ["a<b!=c".toList, "user in (x,y)".toList] ∧
      ¬ ReadBehindName "a<b!=c".toList ∧ ReadBehindName "user in (x,y)".toList ∧
      read .standard "=c!".toList = .error (noOperator "=c!".toList) := by
  intro text f
  have hparse : Filter.parse .standard text = .ok f := rfl
  have hsplit : split text = ["a<b!=c".toList, "user in (x,y)".toList] := by decide +kernel
  have hnames := Filter.field_names_of_parse.1 hparse
  rw [hsplit] at hnames
  cases hnames with
  | cons hfirst hrest =>
    cases hrest with
    | cons hsecond _ =>
      obtain ⟨-, hlate⟩ := hfirst.2 ⟨'a', _, rfl, by decide⟩
      obtain ⟨-, hlist⟩ := hsecond.2 ⟨'u', _, rfl, by decide⟩
      refine ⟨hparse, hsplit, mt hlate.mpr (by decide), hlist.mp (by decide), ?_⟩
      exact Filter.field_names_of_parse.2 .equals (by decide) "c!".toList (by decide) (by decide)

/-- The operator that is looked for first is behind another one, which ends up in the field. -/
theorem Filter.field_with_sign :
    let f : Filter := { expressions := [⟨"A=b".toList, .greaterEqual, .text "c".toList, .string⟩] }
    Filter.parse .standard "a=b>=c".toList = .ok f ∧
      ¬ ∀ e ∈ f.expressions, e.field ≠ [] ∧ ∀ c ∈ e.field, ¬ Operator.isSign c := by
  intro f
  refine ⟨rfl, fun hnames => ?_⟩
  exact (hnames _ List.mem_cons_self).2 '=' (by decide) (by decide)

end RecordFilter
