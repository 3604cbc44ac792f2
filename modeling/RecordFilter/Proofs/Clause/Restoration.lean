import RecordFilter.Proofs.Clause.Separators

/-!
Putting the list operators back after a text has been split at its spaces.

The operators `not in` and `in` hold spaces, so marks stand for them while the text is split, and in
the words every mark becomes its operator again. A mark can also be read where none was put: next to
the underscores of the text, or where the marks of two operators touch. The text is looked at as
rows of parts with the operators between them, and the rows are walked character by character and
operator by operator.
-/

namespace RecordFilter.Clause

/-- The parts of a text that its operators `not in` stand between, each in the parts that its
    operators `in` stand between. -/
def operatorRows (text : Text) : List (List Text) :=
  (Text.splitOn Operator.notIn.token text).map (Text.splitOn Operator.isIn.token)

/-- In no part a mark can be read. Where a mark follows, its first two characters count with the
    part, since this is as far as one mark can reach into another. -/
def Legible (mark : Text) : List Text → Prop
  | [] => True
  | [part] => ¬ mark <:+: part
  | part :: next :: rest => ¬ mark <:+: part ++ mark.take 2 ∧ Legible mark (next :: rest)

/-- Two occurrences of the text share no more than two characters. -/
def OverlapsAtMostTwo (mark : Text) : Prop :=
  3 ≤ mark.length ∧ ∀ n < mark.length - 2, 0 < n → ¬ mark.take 3 <+: mark.drop n

instance (mark : Text) : Decidable (OverlapsAtMostTwo mark) :=
  inferInstanceAs (Decidable (_ ∧ _))

theorem overlapsAtMostTwo_notInMark : OverlapsAtMostTwo notInMark := by decide

theorem overlapsAtMostTwo_inMark : OverlapsAtMostTwo inMark := by decide

section

variable {mark : Text} (hmark : OverlapsAtMostTwo mark)

include hmark

/-- An occurrence that begins before a mark ends within its first two characters. -/
theorem OverlapsAtMostTwo.isPrefix_append_iff {s : Text} (hs : s ≠ []) (more : Text) :
    mark <+: s ++ (mark ++ more) ↔ mark <+: s ++ mark.take 2 := by
  have htwo : mark.take 2 <+: mark ++ more :=
    (List.take_prefix 2 mark).trans (List.prefix_append mark more)
  have hshorter : s ++ mark.take 2 <+: s ++ (mark ++ more) :=
    (List.prefix_append_right_inj s).mpr htwo
  refine ⟨fun hbegins => ?_, fun hbegins => hbegins.trans hshorter⟩
  obtain ⟨hlength, hapart⟩ := hmark
  by_cases hfits : mark.length ≤ (s ++ mark.take 2).length
  · exact List.prefix_of_prefix_length_le hbegins hshorter hfits
  · rw [List.length_append, List.length_take, Nat.min_eq_left (by omega)] at hfits
    have hpos := List.length_pos_iff.mpr hs
    refine absurd ?_ (hapart s.length (by omega) hpos)
    obtain ⟨rest, hrest⟩ := hbegins
    have hdrop : mark.drop s.length <+: mark ++ more := by
      refine ⟨rest, ?_⟩
      have hboth := congrArg (List.drop s.length) hrest
      rwa [List.drop_append_of_le_length (by omega), List.drop_left] at hboth
    have htake : mark.take 3 <+: mark ++ more :=
      (List.take_prefix 3 mark).trans (List.prefix_append mark more)
    refine List.prefix_of_prefix_length_le htake hdrop ?_
    rw [List.length_take, List.length_drop]
    omega

theorem OverlapsAtMostTwo.clear_append_iff (a part more : Text) :
    Text.Clear mark a (part ++ (mark ++ more)) ↔ Text.Clear mark a (part ++ mark.take 2) := by
  induction a with
  | nil => rfl
  | cons c a ih =>
    have hfirst := hmark.isPrefix_append_iff (List.cons_ne_nil c (a ++ part)) more
    rw [List.cons_append, List.cons_append, List.append_assoc, List.append_assoc] at hfirst
    rw [Text.Clear, Text.Clear, ih, hfirst]

/-- What is put before the first part may hold no beginning of a mark. -/
theorem OverlapsAtMostTwo.legible_append_iff (a part : Text) (rest : List Text) :
    Legible mark ((a ++ part) :: rest) ↔
      Text.Clear mark a (Text.join mark (part :: rest)) ∧ Legible mark (part :: rest) := by
  cases rest with
  | nil => exact Text.not_isInfix_append_iff
  | cons next rest =>
    rw [Legible, Legible, Text.join_cons_cons, List.append_assoc, List.append_assoc,
      hmark.clear_append_iff, Text.not_isInfix_append_iff, and_assoc]

theorem OverlapsAtMostTwo.legible_nil_cons_iff {rest : List Text} (hrest : rest ≠ []) :
    Legible mark ([] :: rest) ↔ Legible mark rest := by
  obtain ⟨next, rest, rfl⟩ := List.exists_cons_of_ne_nil hrest
  have hshort : ¬ mark <:+: mark.take 2 := by
    intro hoccurs
    have hle := hoccurs.length_le
    have hlength := hmark.1
    rw [List.length_take] at hle
    omega
  exact and_iff_right hshort

end

/-- The text of rows, with one text for `not in` and one for `in`. -/
def rowsText (outer inner : Text) (rows : List (List Text)) : Text :=
  Text.join outer (rows.map (Text.join inner))

theorem rowsText_operatorRows (text : Text) :
    rowsText Operator.notIn.token Operator.isIn.token (operatorRows text) = text := by
  have hrows : (Text.splitOn Operator.notIn.token text).map
      (Text.join Operator.isIn.token ∘ Text.splitOn Operator.isIn.token) =
        Text.splitOn Operator.notIn.token text := by
    refine List.map_id'' (fun row => Text.join_splitOn (by decide)) _
  rw [rowsText, operatorRows, List.map_map, hrows, Text.join_splitOn (by decide)]

theorem protect_eq_rowsText (text : Text) :
    protect text = rowsText notInMark inMark (operatorRows text) := by
  have hrows : ∀ row, Text.replaceAll Operator.isIn.token inMark row =
      Text.join inMark (Text.splitOn Operator.isIn.token row) :=
    fun row => Text.replaceAll_eq_join (by decide)
  rw [protect, Text.replaceAll_eq_join (p := Operator.notIn.token) (by decide),
    Text.replaceAll_join (by decide) (by decide) (by decide), rowsText, operatorRows, List.map_map]
  exact congrArg _ (List.map_congr_left fun row _ => hrows row)

/-- Rows are walked character by character and operator by operator. -/
@[elab_as_elim]
theorem rows_induction {motive : List (List Text) → Prop} (empty : motive [[[]]])
    (char : ∀ c part row rows, motive ((part :: row) :: rows) →
      motive (((c :: part) :: row) :: rows))
    (isIn : ∀ part row rows, motive ((part :: row) :: rows) → motive (([] :: part :: row) :: rows))
    (notIn : ∀ row rows, motive (row :: rows) → motive ([[]] :: row :: rows))
    (rows : List (List Text)) (hrows : rows ≠ []) (hrow : ∀ row ∈ rows, row ≠ []) :
    motive rows := by
  have hpart : ∀ part row rows, motive (([] :: row) :: rows) → motive ((part :: row) :: rows) := by
    intro part row rows hnil
    induction part with
    | nil => exact hnil
    | cons c part ih => exact char c part row rows ih
  induction rows with
  | nil => exact absurd rfl hrows
  | cons row rows ih =>
    obtain ⟨hfirst, hothers⟩ := List.forall_mem_cons.mp hrow
    induction row with
    | nil => exact absurd rfl hfirst
    | cons part row ihRow =>
      apply hpart
      cases row with
      | nil =>
        cases rows with
        | nil => exact empty
        | cons next rows => exact notIn next rows (ih (List.cons_ne_nil next rows) hothers)
      | cons next row =>
        have hnext : next :: row ≠ [] := List.cons_ne_nil next row
        have hall : ∀ r ∈ (next :: row) :: rows, r ≠ [] := List.forall_mem_cons.mpr ⟨hnext, hothers⟩
        exact isIn next row rows (ihRow (List.cons_ne_nil _ rows) hall hnext)

section

variable (outer inner part : Text) (row : List Text) (rows : List (List Text))

theorem rowsText_char (c : Char) :
    rowsText outer inner (((c :: part) :: row) :: rows) =
      c :: rowsText outer inner ((part :: row) :: rows) := by
  have hrow := Text.join_cons_append inner [c] part row
  have hall := Text.join_cons_append outer [c] (Text.join inner (part :: row))
    (rows.map (Text.join inner))
  rw [List.singleton_append, List.singleton_append] at hrow hall
  rw [rowsText, rowsText, List.map_cons, hrow, hall, List.map_cons]

theorem rowsText_isIn :
    rowsText outer inner (([] :: part :: row) :: rows) =
      inner ++ rowsText outer inner ((part :: row) :: rows) := by
  rw [rowsText, rowsText, List.map_cons, List.map_cons, Text.join_cons_cons, List.nil_append,
    Text.join_cons_append]

theorem rowsText_notIn :
    rowsText outer inner ([[]] :: row :: rows) = outer ++ rowsText outer inner (row :: rows) := by
  rw [rowsText, rowsText, List.map_cons, List.map_cons, Text.join_cons_cons, Text.join,
    List.nil_append]

end

theorem unprotect_notInMark_append (t : Text) :
    unprotect (notInMark ++ t) = Operator.notIn.token ++ unprotect t := by
  have hclear : Text.Clear inMark Operator.notIn.token
      (Text.replaceAll notInMark Operator.notIn.token t) := Text.clear_of_not_mem (by decide)
  rw [unprotect, Text.replaceAll_append_self (by decide), Text.replaceAll_append_of_clear hclear,
    unprotect]

theorem unprotect_inMark_append {t : Text} (hclear : Text.Clear notInMark inMark t) :
    unprotect (inMark ++ t) = Operator.isIn.token ++ unprotect t := by
  rw [unprotect, Text.replaceAll_append_of_clear hclear, Text.replaceAll_append_self (by decide),
    unprotect]

/-- Where the mark of `in` begins after the other marks have been replaced. -/
theorem inMark_isPrefix_iff {t : Text} :
    inMark <+: Text.replaceAll notInMark Operator.notIn.token t ↔
      ∃ rest, t = inMark ++ rest ∧ Text.Clear notInMark inMark rest :=
  Text.isPrefix_replaceAll_iff (c := ' ') (by decide) rfl (by decide)

theorem unprotect_cons {c : Char} {t : Text} (hnotIn : ¬ notInMark <+: c :: t)
    (hin : ¬ inMark <+: Text.replaceAll notInMark Operator.notIn.token (c :: t)) :
    unprotect (c :: t) = c :: unprotect t := by
  rw [Text.replaceAll_cons_of_not_isPrefix hnotIn] at hin
  rw [unprotect, Text.replaceAll_cons_of_not_isPrefix hnotIn,
    Text.replaceAll_cons_of_not_isPrefix hin, unprotect]

/-- The operators are put back where they were, and nowhere else. -/
def Restored (rows : List (List Text)) : Prop :=
  Legible notInMark (rows.map (Text.join inMark)) ∧ ∀ row ∈ rows, Legible inMark row

/-- The mark of `in` can only be read within a part, since what follows a part is another mark. -/
theorem inMark_isPrefix_iff_of_legible {part : Text} {rest : List Text}
    (hlegible : Legible notInMark (part :: rest)) :
    inMark <+: Text.replaceAll notInMark Operator.notIn.token (Text.join notInMark (part :: rest)) ↔
      inMark <+: part := by
  rw [inMark_isPrefix_iff]
  cases rest with
  | nil =>
    constructor
    · rintro ⟨after, hafter, -⟩
      exact ⟨after, hafter.symm⟩
    · rintro ⟨after, rfl⟩
      exact ⟨after, rfl, (Text.not_isInfix_append_iff.mp hlegible).1⟩
  | cons next rest =>
    rw [Text.join_cons_cons, List.append_assoc]
    obtain ⟨hpart, -⟩ := hlegible
    constructor
    · rintro ⟨after, hafter, hclear⟩
      by_cases hfits : inMark.length ≤ part.length
      · have hbegins : inMark <+: part ++ (notInMark ++ Text.join notInMark (next :: rest)) :=
          ⟨after, hafter.symm⟩
        exact List.prefix_of_prefix_length_le hbegins (List.prefix_append _ _) hfits
      · have hshort : part <+: inMark := List.prefix_of_prefix_length_le ⟨_, hafter⟩
          (List.prefix_append _ _) (Nat.le_of_not_le hfits)
        obtain ⟨last, hlast⟩ := hshort
        rw [← hlast, List.append_assoc, List.append_cancel_left_eq] at hafter
        rw [← hlast, Text.clear_append_iff] at hclear
        cases last with
        | nil => simp [← hlast] at hfits
        | cons c last => exact absurd ⟨_, hafter⟩ hclear.2.1
    · rintro ⟨after, rfl⟩
      rw [List.append_assoc, Text.not_isInfix_append_iff] at hpart
      refine ⟨_, List.append_assoc .., ?_⟩
      exact (overlapsAtMostTwo_notInMark.clear_append_iff _ _ _).mpr hpart.1

theorem restored_char_iff (c : Char) (part : Text) (row : List Text) (rows : List (List Text)) :
    Restored (((c :: part) :: row) :: rows) ↔
      (¬ notInMark <+: c :: rowsText notInMark inMark ((part :: row) :: rows) ∧
        ¬ inMark <+: Text.replaceAll notInMark Operator.notIn.token
          (c :: rowsText notInMark inMark ((part :: row) :: rows))) ∧
        Restored ((part :: row) :: rows) := by
  have hjoin : Text.join inMark ((c :: part) :: row) = [c] ++ Text.join inMark (part :: row) :=
    Text.join_cons_append inMark [c] part row
  have houter := overlapsAtMostTwo_notInMark.legible_append_iff [c] (Text.join inMark (part :: row))
    (rows.map (Text.join inMark))
  have hinner := overlapsAtMostTwo_inMark.legible_append_iff [c] part row
  have hrows : rowsText notInMark inMark ((part :: row) :: rows) =
    Text.join notInMark (Text.join inMark (part :: row) :: rows.map (Text.join inMark)) := rfl
  have hlong : rowsText notInMark inMark (((c :: part) :: row) :: rows) =
      Text.join notInMark
        (([c] ++ Text.join inMark (part :: row)) :: rows.map (Text.join inMark)) := by
    rw [rowsText, List.map_cons, hjoin]
  rw [rowsText_char] at hlong
  constructor
  · rintro ⟨hout, hin⟩
    rw [List.map_cons, hjoin] at hout
    have hmark := inMark_isPrefix_iff_of_legible hout
    rw [← hlong] at hmark
    obtain ⟨⟨hfirst, -⟩, hrest⟩ := houter.mp hout
    obtain ⟨⟨hpart, -⟩, hrow⟩ := hinner.mp (hin _ List.mem_cons_self)
    refine ⟨⟨hfirst, fun h => hpart (hmark.mp h)⟩, hrest, ?_⟩
    rintro r hr
    rcases List.mem_cons.mp hr with rfl | hr
    · exact hrow
    · exact hin r (List.mem_cons_of_mem _ hr)
  · rintro ⟨⟨hfirst, hpart⟩, hout, hin⟩
    have hlegible := houter.mpr ⟨⟨hfirst, trivial⟩, hout⟩
    have hmark := inMark_isPrefix_iff_of_legible hlegible
    rw [← hlong] at hmark
    refine ⟨by rwa [List.map_cons, hjoin], ?_⟩
    rintro r hr
    rcases List.mem_cons.mp hr with rfl | hr
    · exact hinner.mpr ⟨⟨fun h => hpart (hmark.mpr h), trivial⟩, hin _ List.mem_cons_self⟩
    · exact hin r (List.mem_cons_of_mem _ hr)

theorem restored_isIn_iff (part : Text) (row : List Text) (rows : List (List Text)) :
    Restored (([] :: part :: row) :: rows) ↔
      Text.Clear notInMark inMark (rowsText notInMark inMark ((part :: row) :: rows)) ∧
        Restored ((part :: row) :: rows) := by
  have hjoin : Text.join inMark ([] :: part :: row) = inMark ++ Text.join inMark (part :: row) := by
    rw [Text.join_cons_cons, List.nil_append]
  have houter := overlapsAtMostTwo_notInMark.legible_append_iff inMark
    (Text.join inMark (part :: row)) (rows.map (Text.join inMark))
  have hinner := overlapsAtMostTwo_inMark.legible_nil_cons_iff (List.cons_ne_nil part row)
  rw [Restored, Restored, List.map_cons, hjoin, houter, List.forall_mem_cons, List.forall_mem_cons,
    hinner, and_assoc]
  rfl

theorem restored_notIn_iff (row : List Text) (rows : List (List Text)) :
    Restored ([[]] :: row :: rows) ↔ Restored (row :: rows) := by
  have hrows : (row :: rows).map (Text.join inMark) ≠ [] := by
    rw [ne_eq, List.map_eq_nil_iff]
    exact List.cons_ne_nil row rows
  have houter := overlapsAtMostTwo_notInMark.legible_nil_cons_iff hrows
  have hempty : Legible inMark [[]] := by
    rw [Legible]
    decide
  rw [Restored, Restored, List.map_cons, Text.join, houter, List.forall_mem_cons,
    and_iff_right hempty]

theorem unprotect_rowsText_of_restored {rows : List (List Text)} (hrows : rows ≠ [])
    (hrow : ∀ row ∈ rows, row ≠ []) (hrestored : Restored rows) :
    unprotect (rowsText notInMark inMark rows) =
      rowsText Operator.notIn.token Operator.isIn.token rows := by
  revert hrestored
  refine rows_induction ?empty ?char ?isIn ?notIn rows hrows hrow
  case empty => exact fun _ => rfl
  case char =>
    intro c part row rows ih hrestored
    obtain ⟨⟨hnotIn, hin⟩, hrest⟩ := (restored_char_iff c part row rows).mp hrestored
    rw [rowsText_char, rowsText_char, unprotect_cons hnotIn hin, ih hrest]
  case isIn =>
    intro part row rows ih hrestored
    obtain ⟨hclear, hrest⟩ := (restored_isIn_iff part row rows).mp hrestored
    rw [rowsText_isIn, rowsText_isIn, unprotect_inMark_append hclear, ih hrest]
  case notIn =>
    intro row rows ih hrestored
    have hrest := (restored_notIn_iff row rows).mp hrestored
    rw [rowsText_notIn, rowsText_notIn, unprotect_notInMark_append, ih hrest]

/-- The characters of a text without its spaces. -/
def withoutSpaces (text : Text) : Text :=
  text.filter (· ≠ ' ')

theorem withoutSpaces_append (a b : Text) :
    withoutSpaces (a ++ b) = withoutSpaces a ++ withoutSpaces b :=
  List.filter_append a b

theorem withoutSpaces_cons (c : Char) (text : Text) :
    withoutSpaces (c :: text) = withoutSpaces [c] ++ withoutSpaces text :=
  withoutSpaces_append [c] text

theorem withoutSpaces_of_cons {c : Char} {a b : Text}
    (hsame : withoutSpaces (c :: a) = withoutSpaces (c :: b)) :
    withoutSpaces a = withoutSpaces b := by
  rw [withoutSpaces_cons c a, withoutSpaces_cons c b] at hsame
  exact List.append_cancel_left hsame

/-- Where a mark is read, a letter comes to stand for its first underscore. -/
theorem withoutSpaces_unprotect_ne {c : Char} {t : Text}
    (hread : notInMark <+: c :: t ∨
      inMark <+: Text.replaceAll notInMark Operator.notIn.token (c :: t)) (text : Text) :
    withoutSpaces (unprotect (c :: t)) ≠ withoutSpaces (c :: text) := by
  intro hsame
  rcases hread with ⟨rest, hrest⟩ | hin
  · obtain ⟨rfl, -⟩ := List.cons.inj hrest
    rw [← hrest, unprotect_notInMark_append, withoutSpaces_append, withoutSpaces_cons] at hsame
    exact absurd (List.cons.inj hsame).1 (by decide)
  · obtain ⟨rest, hrest, hclear⟩ := inMark_isPrefix_iff.mp hin
    obtain ⟨rfl, -⟩ := List.cons.inj hrest
    rw [hrest, unprotect_inMark_append hclear, withoutSpaces_append, withoutSpaces_cons] at hsame
    exact absurd (List.cons.inj hsame).1 (by decide)

/-- Where a mark of `in` is taken apart by another mark, its first underscore stays. -/
theorem unprotect_inMark_append_of_not_clear {t : Text} (hclear : ¬ Text.Clear notInMark inMark t) :
    unprotect (inMark ++ t) = '_' :: unprotect (inMark.tail ++ t) := by
  have hnotIn : ¬ notInMark <+: inMark ++ t := by
    rintro ⟨rest, hrest⟩
    obtain ⟨-, htail⟩ := List.cons.inj hrest
    obtain ⟨-, htail⟩ := List.cons.inj htail
    exact absurd (List.cons.inj htail).1 (by decide)
  have hin : ¬ inMark <+: Text.replaceAll notInMark Operator.notIn.token (inMark ++ t) := by
    rw [inMark_isPrefix_iff]
    rintro ⟨rest, hrest, hthere⟩
    rw [List.append_cancel_left_eq] at hrest
    exact hclear (hrest ▸ hthere)
  exact unprotect_cons hnotIn hin

theorem restored_of_withoutSpaces_eq {rows : List (List Text)} (hrows : rows ≠ [])
    (hrow : ∀ row ∈ rows, row ≠ [])
    (hsame : withoutSpaces (unprotect (rowsText notInMark inMark rows)) =
      withoutSpaces (rowsText Operator.notIn.token Operator.isIn.token rows)) : Restored rows := by
  revert hsame
  refine rows_induction ?empty ?char ?isIn ?notIn rows hrows hrow
  case empty =>
    intro hsame
    refine ⟨?_, List.forall_mem_singleton.mpr ?_⟩
    · change ¬ notInMark <:+: []
      decide
    · change ¬ inMark <:+: []
      decide
  case char =>
    intro c part row rows ih hsame
    rw [rowsText_char, rowsText_char] at hsame
    have hread := fun h => withoutSpaces_unprotect_ne h _ hsame
    obtain ⟨hnotIn, hin⟩ := not_or.mp hread
    rw [unprotect_cons hnotIn hin] at hsame
    have hrest := ih (withoutSpaces_of_cons hsame)
    exact (restored_char_iff c part row rows).mpr ⟨⟨hnotIn, hin⟩, hrest⟩
  case isIn =>
    intro part row rows ih hsame
    rw [rowsText_isIn, rowsText_isIn] at hsame
    let marked := rowsText notInMark inMark ((part :: row) :: rows)
    by_cases hclear : Text.Clear notInMark inMark marked
    · rw [unprotect_inMark_append hclear, withoutSpaces_append, withoutSpaces_append] at hsame
      exact (restored_isIn_iff part row rows).mpr ⟨hclear, ih (List.append_cancel_left hsame)⟩
    · rw [unprotect_inMark_append_of_not_clear hclear, withoutSpaces_append] at hsame
      exact absurd (List.cons.inj hsame).1 (by decide)
  case notIn =>
    intro row rows ih hsame
    rw [rowsText_notIn, rowsText_notIn, unprotect_notInMark_append, withoutSpaces_append,
      withoutSpaces_append] at hsame
    exact (restored_notIn_iff row rows).mpr (ih (List.append_cancel_left hsame))

theorem unprotect_append_space (a b : Text) :
    unprotect (a ++ ' ' :: b) = unprotect a ++ ' ' :: unprotect b := by
  rw [unprotect, Text.replaceAll_append_cons (by decide) (by decide),
    Text.replaceAll_append_cons (by decide) (by decide), unprotect, unprotect]

theorem flatten_map_wordOf (text : Text) :
    ((wordOf text).map unprotect).flatten = unprotect text := by
  cases text <;> simp [wordOf, unprotect, Text.replaceAll, Text.replaceFrom]

/-- Of a text whose words are taken for themselves only separators are lost. -/
theorem flatten_map_words (text : Text) :
    ((words text).map unprotect).flatten.Sublist (unprotect text) ∧
      withoutSpaces ((words text).map unprotect).flatten = withoutSpaces (unprotect text) := by
  induction text using separator_induction with
  | unbroken text htext =>
    rw [words_eq_wordOf htext, flatten_map_wordOf]
    exact ⟨List.Sublist.refl _, rfl⟩
  | separated before after hbefore hopen ih =>
    obtain ⟨hsublist, hsame⟩ := ih
    rw [words_append_space hbefore hopen, List.map_append, List.flatten_append, flatten_map_wordOf,
      unprotect_append_space, withoutSpaces_append, withoutSpaces_append, hsame]
    exact ⟨(List.Sublist.refl _).append (hsublist.cons ' '), rfl⟩

theorem operatorRows_ne_nil (text : Text) : operatorRows text ≠ [] := by
  rw [operatorRows, ne_eq, List.map_eq_nil_iff]
  exact Text.splitOn_ne_nil text

theorem ne_nil_of_mem_operatorRows {text : Text} :
    ∀ row ∈ operatorRows text, row ≠ [] := by
  intro row hrow
  obtain ⟨part, -, rfl⟩ := List.mem_map.mp hrow
  exact Text.splitOn_ne_nil part

/-- Splitting a text loses and invents nothing but spaces if and only if nothing in it is taken for
    a mark that is none. The parts between its list operators are looked at with what the marks of
    the operators add to them. -/
theorem split_loses_spaces_only_iff (text : Text) :
    ((split text).flatten.Sublist text ∧
        (split text).flatten.filter (· ≠ ' ') = text.filter (· ≠ ' ')) ↔
      Legible notInMark ((operatorRows text).map (Text.join inMark)) ∧
        ∀ row ∈ operatorRows text, Legible inMark row := by
  have hrows := operatorRows_ne_nil text
  have htext := rowsText_operatorRows text
  have hmarked := protect_eq_rowsText text
  obtain ⟨hsublist, hsame⟩ := flatten_map_words (protect text)
  constructor
  · rintro ⟨-, hsigns⟩
    have hkept := hsame.symm.trans hsigns
    refine restored_of_withoutSpaces_eq hrows ne_nil_of_mem_operatorRows ?_
    rw [← hmarked, htext]
    exact hkept
  · intro hrestored
    have hback := unprotect_rowsText_of_restored hrows ne_nil_of_mem_operatorRows hrestored
    rw [← hmarked, htext] at hback
    rw [hback] at hsublist hsame
    exact ⟨hsublist, hsame⟩

/-- An operator after the characters of its own mark is put back at their place. -/
example : split "a__IN in b".toList = ["a in IN__b".toList] := by decide

end RecordFilter.Clause
