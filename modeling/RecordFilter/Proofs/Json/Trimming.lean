import RecordFilter.Proofs.Json.Readings

/-!
White space around a text in JSON.

A reading that leaves white space at the end of a text is one of the text without it. An array is
therefore read as well when blanks of any kind have been taken off both its ends.
-/

namespace RecordFilter.Json

variable {g : Text}

theorem withRest_eq_ok_iff {α : Type} {reading : Except JsonError (α × Text)} {a : α} {w : Text} :
    withRest g reading = .ok (a, w ++ g) ↔ reading = .ok (a, w) := by
  rw [withRest, map_eq_ok_iff]
  constructor
  · rintro ⟨⟨b, rest⟩, rfl, hpair⟩
    obtain ⟨rfl, hrest⟩ := Prod.mk.inj hpair
    rw [List.append_cancel_right hrest]
  · rintro rfl
    exact ⟨_, rfl, rfl⟩

theorem exists_cons_of_append_gaps {c : Char} {t u : Text} (hg : Gaps g) (hc : ¬ isGap c)
    (ht : c :: t = u ++ g) : ∃ rest, u = c :: rest ∧ t = rest ++ g := by
  cases u with
  | nil =>
    rw [List.nil_append] at ht
    exact absurd (hg c (ht ▸ List.mem_cons_self)) hc
  | cons d u =>
    obtain ⟨rfl, rfl⟩ := List.cons.inj ht
    exact ⟨u, rfl, rfl⟩

/-- White space at the beginning of a text does not reach its end, unless there is nothing else. -/
theorem skipGaps_append_gaps {u : Text} (hg : Gaps g) (hne : skipGaps (u ++ g) ≠ []) :
    skipGaps (u ++ g) = skipGaps u ++ g := by
  induction u with
  | nil => exact absurd (List.dropWhile_eq_nil_iff.mpr hg) hne
  | cons c u ih =>
    by_cases hc : isGap c
    · have hstep : ∀ t : Text, skipGaps (c :: t) = skipGaps t := fun t =>
        List.dropWhile_cons_of_pos hc
      rw [List.cons_append, hstep] at hne ⊢
      rw [hstep, ih hne]
    · have hstep : ∀ t : Text, skipGaps (c :: t) = c :: t := fun t =>
        List.dropWhile_cons_of_neg hc
      rw [List.cons_append, hstep, hstep]
      rfl

/-- A character other than white space is found where it is without the white space at the end. -/
theorem skipGaps_eq_cons_of_append_gaps {c : Char} {u rest : Text} (hg : Gaps g) (hc : ¬ isGap c)
    (hskip : skipGaps (u ++ g) = c :: rest) :
    ∃ after, skipGaps u = c :: after ∧ rest = after ++ g := by
  have hne : skipGaps (u ++ g) ≠ [] := by
    rw [hskip]
    exact List.cons_ne_nil c rest
  rw [skipGaps_append_gaps hg hne] at hskip
  exact exists_cons_of_append_gaps hg hc hskip.symm

theorem skipGaps_eq_of_append_gaps {c : Char} {u w : Text} (hg : Gaps g) (hc : ¬ isGap c)
    (hskip : skipGaps (u ++ g) = c :: (w ++ g)) : skipGaps u = c :: w := by
  obtain ⟨after, hafter, hsame⟩ := skipGaps_eq_cons_of_append_gaps hg hc hskip
  rw [hafter, List.append_cancel_right hsame]

theorem exists_eq_append_of_isSuffix {t rest w : Text} (hrest : rest <:+ t) (hw : rest = w ++ g) :
    ∃ u, t = u ++ g := by
  obtain ⟨front, rfl⟩ := hrest
  exact ⟨front ++ w, by rw [hw, List.append_assoc]⟩

variable {room : Nat} {t rest : Text} {r : Reading}

theorem Reads.ne_nil (hread : Reads room t r rest) : t ≠ [] := by
  rintro rfl
  exact Nat.not_lt_zero _ hread.shortens.length_lt

/-- A reading that leaves white space at the end of a text is one of the text without it. -/
theorem Reads.of_append_gaps (hg : Gaps g) (hread : Reads room t r rest) {u w : Text}
    (ht : t = u ++ g) (hrest : rest = w ++ g) : Reads room u r w := by
  induction hread generalizing u w with
  | plain hbegins hplain =>
    subst ht hrest
    rw [readPlain_append_of_separates u hg.separates] at hplain
    refine .plain ?_ (withRest_eq_ok_iff.mp hplain)
    intro c hc
    exact hbegins c (by rw [List.head?_append, hc]; rfl)
  | text htext =>
    obtain ⟨u, rfl, rfl⟩ := exists_cons_of_append_gaps hg (by decide) ht
    subst hrest
    rw [readString_append_gaps u hg] at htext
    exact .text (withRest_eq_ok_iff.mp htext)
  | emptyList hgap =>
    obtain ⟨u, rfl, rfl⟩ := exists_cons_of_append_gaps hg (by decide) ht
    subst hrest
    exact .emptyList (skipGaps_eq_of_append_gaps hg (by decide) hgap)
  | list hitems ih =>
    obtain ⟨u, rfl, rfl⟩ := exists_cons_of_append_gaps hg (by decide) ht
    exact .list (ih (skipGaps_append_gaps hg hitems.ne_nil) hrest)
  | emptyDict hgap =>
    obtain ⟨u, rfl, rfl⟩ := exists_cons_of_append_gaps hg (by decide) ht
    subst hrest
    exact .emptyDict (skipGaps_eq_of_append_gaps hg (by decide) hgap)
  | dict hpairs ih =>
    obtain ⟨u, rfl, rfl⟩ := exists_cons_of_append_gaps hg (by decide) ht
    exact .dict (ih (skipGaps_append_gaps hg hpairs.ne_nil) hrest)
  | lastItem hitem hgap ih =>
    obtain ⟨middle, rfl⟩ := exists_eq_append_of_isSuffix (isSuffix_of_skipGaps_eq hgap) hrest
    subst hrest
    exact .lastItem (ih ht rfl) (skipGaps_eq_of_append_gaps hg (by decide) hgap)
  | @item _ _ _ after _ _ _ hitem hgap hitems ihitem ihitems =>
    have hsuffix := hitems.shortens.isSuffix.trans (isSuffix_skipGaps after)
    obtain ⟨middle, rfl⟩ := exists_eq_append_of_isSuffix
      (hsuffix.trans (isSuffix_of_skipGaps_eq hgap)) hrest
    obtain ⟨after, hskip, rfl⟩ := skipGaps_eq_cons_of_append_gaps hg (by decide) hgap
    exact .item (ihitem ht rfl) hskip (ihitems (skipGaps_append_gaps hg hitems.ne_nil) hrest)
  | @lastMember _ _ _ after _ _ _ _ hname hcolon hvalue hgap ih =>
    obtain ⟨u, rfl, rfl⟩ := exists_cons_of_append_gaps hg (by decide) ht
    obtain ⟨middle, rfl⟩ := exists_eq_append_of_isSuffix (isSuffix_of_skipGaps_eq hgap) hrest
    have hsuffix := hvalue.shortens.isSuffix.trans (isSuffix_skipGaps after)
    obtain ⟨named, rfl⟩ := exists_eq_append_of_isSuffix
      (hsuffix.trans (isSuffix_of_skipGaps_eq hcolon)) rfl
    rw [readString_append_gaps u hg] at hname
    obtain ⟨after, hskip, rfl⟩ := skipGaps_eq_cons_of_append_gaps hg (by decide) hcolon
    subst hrest
    exact .lastMember (withRest_eq_ok_iff.mp hname) hskip
      (ih (skipGaps_append_gaps hg hvalue.ne_nil) rfl)
      (skipGaps_eq_of_append_gaps hg (by decide) hgap)
  | @member _ _ _ after _ next _ _ _ _ hname hcolon hvalue hgap hpairs ihvalue ihpairs =>
    obtain ⟨u, rfl, rfl⟩ := exists_cons_of_append_gaps hg (by decide) ht
    have hpairsuffix := hpairs.shortens.isSuffix.trans (isSuffix_skipGaps next)
    obtain ⟨middle, rfl⟩ := exists_eq_append_of_isSuffix
      (hpairsuffix.trans (isSuffix_of_skipGaps_eq hgap)) hrest
    have hsuffix := hvalue.shortens.isSuffix.trans (isSuffix_skipGaps after)
    obtain ⟨named, rfl⟩ := exists_eq_append_of_isSuffix
      (hsuffix.trans (isSuffix_of_skipGaps_eq hcolon)) rfl
    rw [readString_append_gaps u hg] at hname
    obtain ⟨after, hskip, rfl⟩ := skipGaps_eq_cons_of_append_gaps hg (by decide) hcolon
    obtain ⟨next, hnext, rfl⟩ := skipGaps_eq_cons_of_append_gaps hg (by decide) hgap
    exact .member (withRest_eq_ok_iff.mp hname) hskip
      (ihvalue (skipGaps_append_gaps hg hvalue.ne_nil) rfl) hnext
      (ihpairs (skipGaps_append_gaps hg hpairs.ne_nil) hrest)

/-- The marks at both ends of an array or an object. -/
inductive Encloses : Char → Char → Value → Prop
  | list (items : List Value) : Encloses '[' ']' (.list items)
  | dict (entries : List (Text × Value)) : Encloses '\x7b' '\x7d' (.dict entries)

/-- The mark that ends what is read of the values of an array or the members of an object. -/
def Reading.closing? : Reading → Option Char
  | .value _ => none
  | .items _ => some ']'
  | .members _ => some '\x7d'

theorem Reads.isSuffix_closing {c : Char} (hread : Reads room t r rest)
    (hc : r.closing? = some c) : c :: rest <:+ t := by
  induction hread with
  | @lastItem _ _ middle _ _ hitem hgap _ =>
    obtain rfl := Option.some.inj hc
    exact (hgap ▸ isSuffix_skipGaps middle).trans hitem.shortens.isSuffix
  | @item _ _ _ after _ _ _ hitem hgap _ _ ih =>
    exact (((ih hc).trans (isSuffix_skipGaps after)).trans (isSuffix_of_skipGaps_eq hgap)).trans
      hitem.shortens.isSuffix
  | @lastMember _ t _ after middle _ _ _ hname hcolon hvalue hgap _ =>
    obtain rfl := Option.some.inj hc
    have hclosing := (hgap ▸ isSuffix_skipGaps middle).trans
      (hvalue.shortens.isSuffix.trans (isSuffix_skipGaps after))
    exact ((hclosing.trans (isSuffix_of_skipGaps_eq hcolon)).trans
      (shortens_readText hname).isSuffix).trans (List.suffix_cons '"' t)
  | @member _ t _ after _ next _ _ _ _ hname hcolon hvalue hgap _ _ ih =>
    have hclosing := (((ih hc).trans (isSuffix_skipGaps next)).trans
      (isSuffix_of_skipGaps_eq hgap)).trans
        (hvalue.shortens.isSuffix.trans (isSuffix_skipGaps after))
    exact ((hclosing.trans (isSuffix_of_skipGaps_eq hcolon)).trans
      (shortens_readText hname).isSuffix).trans (List.suffix_cons '"' t)
  | _ => cases hc

variable {v : Value} {opening closing : Char}

/-- A text that is an array or an object begins and ends with its marks. -/
theorem Reads.exists_eq_enclosed (hv : Encloses opening closing v)
    (hread : Reads room t (.value v) []) : ∃ inner, t = opening :: inner ++ [closing] := by
  have hends : ∀ {u t : Text}, [closing] <:+ u → u <:+ t →
      ∃ inner, opening :: t = opening :: inner ++ [closing] := by
    rintro u t hclosing hu
    obtain ⟨inner, hinner⟩ := hclosing.trans hu
    exact ⟨inner, by rw [List.cons_append, hinner]⟩
  cases hv with
  | list items =>
    cases hread with
    | plain _ hplain => cases isPlain_of_readPlain hplain
    | emptyList hgap => exact hends (hgap ▸ List.suffix_rfl) (isSuffix_skipGaps _)
    | list hitems => exact hends (hitems.isSuffix_closing rfl) (isSuffix_skipGaps _)
  | dict entries =>
    cases hread with
    | plain _ hplain => cases isPlain_of_readPlain hplain
    | emptyDict hgap => exact hends (hgap ▸ List.suffix_rfl) (isSuffix_skipGaps _)
    | dict hpairs => exact hends (hpairs.isSuffix_closing rfl) (isSuffix_skipGaps _)

theorem Encloses.not_isBlank_opening (hv : Encloses opening closing v) :
    ¬ Text.isBlank opening := by
  cases hv <;> decide

theorem Encloses.not_isBlank_closing (hv : Encloses opening closing v) :
    ¬ Text.isBlank closing := by
  cases hv <;> decide

theorem isBlank_of_isGap {c : Char} (hc : isGap c) : Text.isBlank c :=
  of_isGap (p := fun c => Text.isBlank c = true) (by decide) hc

theorem eq_append_skipGaps (t : Text) : t = t.takeWhile isGap ++ skipGaps t :=
  List.takeWhile_append_dropWhile.symm

theorem gaps_takeWhile (t : Text) : Gaps (t.takeWhile isGap) :=
  fun _ hc => List.mem_takeWhile_imp hc

theorem skipGaps_skipGaps (t : Text) : skipGaps (skipGaps t) = skipGaps t :=
  List.dropWhile_idempotent ..

theorem skipGaps_append_of_gaps {lead : Text} (hlead : Gaps lead) (t : Text) :
    skipGaps (lead ++ t) = skipGaps t :=
  List.dropWhile_append_of_pos hlead

section

variable (hv : Encloses opening closing v) (hread : read t = .ok v)

include hv hread

/-- White space is all that is around an array or an object. -/
theorem exists_enclosed :
    ∃ inner tail, skipGaps t = opening :: inner ++ closing :: tail ∧ Gaps tail ∧
      Reads depthLimit (opening :: inner ++ [closing]) (.value v) [] := by
  obtain ⟨tail, hreads, hend⟩ := read_eq_ok_iff.mp hread
  have htail : Gaps tail := List.dropWhile_eq_nil_iff.mp hend
  obtain ⟨u, hu⟩ := hreads.shortens.isSuffix
  have halone : Reads depthLimit u (.value v) [] :=
    hreads.of_append_gaps htail hu.symm (List.nil_append tail).symm
  obtain ⟨inner, rfl⟩ := halone.exists_eq_enclosed hv
  exact ⟨inner, tail, by rw [← hu]; simp, htail, halone⟩

theorem mem_opening : opening ∈ t := by
  obtain ⟨inner, tail, hskip, -, -⟩ := exists_enclosed hv hread
  refine (List.dropWhile_suffix isGap).subset ?_
  rw [← skipGaps, hskip]
  exact List.mem_cons_self

theorem dropWhile_isBlank_eq : t.dropWhile Text.isBlank = skipGaps t := by
  obtain ⟨inner, tail, hskip, -, -⟩ := exists_enclosed hv hread
  conv_lhs => rw [eq_append_skipGaps t, hskip]
  rw [List.dropWhile_append_of_pos fun c hc => isBlank_of_isGap (gaps_takeWhile t c hc), hskip]
  exact List.dropWhile_cons_of_neg hv.not_isBlank_opening

/-- An array or an object is read as well when the blanks before it have been taken off. -/
theorem read_dropWhile : read (t.dropWhile Text.isBlank) = .ok v := by
  rw [dropWhile_isBlank_eq hv hread, read_eq_ok_iff, skipGaps_skipGaps]
  exact read_eq_ok_iff.mp hread

/-- An array or an object is read as well when the blanks behind it have been taken off, which are
    white space. -/
theorem read_dropEnd :
    ∃ tail, t = Text.dropEnd Text.isBlank t ++ tail ∧ Gaps tail ∧
      read (Text.dropEnd Text.isBlank t) = .ok v := by
  obtain ⟨inner, tail, hskip, htail, halone⟩ := exists_enclosed hv hread
  have hsplit : t = (t.takeWhile isGap ++ opening :: inner) ++ closing :: tail := by
    rw [List.append_assoc, ← hskip, ← eq_append_skipGaps]
  have hblank : Text.dropEnd Text.isBlank tail = [] :=
    Text.dropEnd_eq_nil fun c hc => isBlank_of_isGap (htail c hc)
  have hdrop : Text.dropEnd Text.isBlank t =
      t.takeWhile isGap ++ (opening :: inner ++ [closing]) := by
    conv_lhs => rw [hsplit, Text.dropEnd_append_cons hv.not_isBlank_closing, hblank]
    rw [List.append_assoc]
  refine ⟨tail, ?_, htail, ?_⟩
  · rw [hdrop]
    conv_lhs => rw [hsplit]
    simp
  · have hopening : ¬ isGap opening := fun h => hv.not_isBlank_opening (isBlank_of_isGap h)
    have hskipped : skipGaps (opening :: inner ++ [closing]) = opening :: inner ++ [closing] :=
      List.dropWhile_cons_of_neg hopening
    rw [hdrop, read_eq_ok_iff, skipGaps_append_of_gaps (gaps_takeWhile t), hskipped]
    exact ⟨[], halone, rfl⟩

/-- An array or an object is read as well when the blanks at both its ends have been taken off. -/
theorem read_trim :
    (∃ after, Text.trim t = opening :: after) ∧ read (Text.trim t) = .ok v := by
  obtain ⟨-, -, -, htrimmed⟩ := read_dropEnd hv (read_dropWhile hv hread)
  refine ⟨?_, htrimmed⟩
  obtain ⟨inner, tail, hskip, -, -⟩ := exists_enclosed hv hread
  rw [Text.trim, Text.trimBy, dropWhile_isBlank_eq hv hread, hskip,
    Text.dropEnd_append_cons hv.not_isBlank_closing]
  exact ⟨_, rfl⟩

end

end RecordFilter.Json
