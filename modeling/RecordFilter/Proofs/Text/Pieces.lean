import Mathlib.Data.List.ModifyLast
import RecordFilter.Proofs.Text.Ends
import RecordFilter.Proofs.Text.Search

/-!
Taking texts apart: the pieces between separators.

Joining pieces without the separator and splitting the result again gives the pieces
(`splitOn_join`).
-/

namespace RecordFilter.Text

private theorem splitFrom_eq_drop (p : Text) (skip : Nat) (t : Text) :
    splitFrom p skip t = splitOn p (t.drop skip) := by
  induction skip generalizing t with
  | zero => rfl
  | succ skip ih =>
    cases t with
    | nil => rfl
    | cons c t => exact ih t

theorem splitOn_append_self {p b : Text} (hp : p ≠ []) :
    splitOn p (p ++ b) = [] :: splitOn p b := by
  cases p with
  | nil => exact absurd rfl hp
  | cons c p =>
    have htrue : (c :: p).isPrefixOf (c :: (p ++ b)) = true :=
      List.isPrefixOf_iff_prefix.mpr (List.prefix_append (c :: p) b)
    rw [List.cons_append, splitOn, splitFrom, if_pos htrue, splitFrom_eq_drop]
    simp

theorem splitOn_ne_nil {p : Text} (t : Text) : splitOn p t ≠ [] := by
  rw [splitOn]
  generalize 0 = skip
  induction t generalizing skip with
  | nil => simp [splitFrom]
  | cons c t ih =>
    cases skip with
    | succ skip => exact ih skip
    | zero =>
      rw [splitFrom]
      split
      · simp
      · split <;> simp

theorem exists_splitOn_cons {p t : Text} {c : Char} (hp : ¬ p <+: c :: t) :
    ∃ piece pieces, splitOn p t = piece :: pieces ∧ splitOn p (c :: t) = (c :: piece) :: pieces := by
  have hfalse : ¬ p.isPrefixOf (c :: t) = true := by
    rwa [List.isPrefixOf_iff_prefix]
  obtain ⟨piece, pieces, hsplit⟩ := List.exists_cons_of_ne_nil (splitOn_ne_nil (p := p) t)
  refine ⟨piece, pieces, hsplit, ?_⟩
  rw [splitOn] at hsplit ⊢
  rw [splitFrom, if_neg hfalse, hsplit]

/-- What is no separator is in one of the pieces. -/
theorem exists_mem_splitOn {c d : Char} {t : Text} (hd : d ∈ t) (hne : d ≠ c) :
    ∃ piece ∈ splitOn [c] t, d ∈ piece := by
  induction t with
  | nil => cases hd
  | cons e t ih =>
    rw [splitOn] at ih ⊢
    by_cases hsep : e = c
    · subst hsep
      obtain ⟨piece, hpiece, hmem⟩ := ih ((List.mem_cons.mp hd).resolve_left hne)
      exact ⟨piece, by simp [splitFrom, hpiece], hmem⟩
    · rcases hsplit : splitFrom [c] 0 t with _ | ⟨first, rest⟩
      · have hsingle : splitFrom [c] 0 (e :: t) = [[e]] := by
          simp [splitFrom, Ne.symm hsep, hsplit]
        rw [hsplit] at ih
        rcases List.mem_cons.mp hd with rfl | hd
        · exact ⟨[d], by simp [hsingle], List.mem_cons_self⟩
        · obtain ⟨piece, hpiece, -⟩ := ih hd
          cases hpiece
      · have hlonger : splitFrom [c] 0 (e :: t) = (e :: first) :: rest := by
          simp [splitFrom, Ne.symm hsep, hsplit]
        rw [hsplit] at ih
        rw [hlonger]
        rcases List.mem_cons.mp hd with rfl | hd
        · exact ⟨d :: first, List.mem_cons_self, List.mem_cons_self⟩
        · obtain ⟨piece, hpiece, hmem⟩ := ih hd
          rcases List.mem_cons.mp hpiece with rfl | hpiece
          · exact ⟨e :: piece, List.mem_cons_self, List.mem_cons_of_mem _ hmem⟩
          · exact ⟨piece, List.mem_cons_of_mem _ hpiece, hmem⟩

theorem splitOn_of_not_mem {c : Char} {a : Text} (hc : c ∉ a) : splitOn [c] a = [a] := by
  induction a with
  | nil => rfl
  | cons d a ih =>
    rw [List.mem_cons, not_or] at hc
    have hrest := ih hc.2
    rw [splitOn] at hrest ⊢
    simp [splitFrom, hc.1, hrest]

theorem splitOn_append_cons {c : Char} {a b : Text} (hc : c ∉ a) :
    splitOn [c] (a ++ c :: b) = a :: splitOn [c] b := by
  induction a with
  | nil => simp [splitOn, splitFrom]
  | cons d a ih =>
    rw [List.mem_cons, not_or] at hc
    have hrest := ih hc.2
    rw [splitOn] at hrest ⊢
    simp [splitFrom, hc.1, hrest]

theorem join_cons_cons (separator first second : Text) (rest : List Text) :
    join separator (first :: second :: rest) = first ++ separator ++ join separator (second :: rest) :=
  rfl

theorem join_cons_of_ne_nil {separator piece : Text} {pieces : List Text} (hne : pieces ≠ []) :
    join separator (piece :: pieces) = piece ++ (separator ++ join separator pieces) := by
  cases pieces with
  | nil => exact absurd rfl hne
  | cons next pieces => rw [join_cons_cons, List.append_assoc]

theorem join_cons_append (separator a piece : Text) (pieces : List Text) :
    join separator ((a ++ piece) :: pieces) = a ++ join separator (piece :: pieces) := by
  cases pieces with
  | nil => rfl
  | cons next pieces => simp only [join_cons_cons, List.append_assoc]

theorem join_append_cons (separator a : Text) (c : Char) (piece : Text) (pieces : List Text) :
    join separator ((a ++ c :: piece) :: pieces) = a ++ c :: join separator (piece :: pieces) := by
  rw [join_cons_append]
  exact congrArg (a ++ ·) (join_cons_append separator [c] piece pieces)

/-- To replace a pattern is to put the replacement between the pieces that it separates. -/
theorem replaceAll_eq_join {p r t : Text} (hp : p ≠ []) :
    replaceAll p r t = join r (splitOn p t) := by
  induction t using occurrence_induction hp with
  | nil => rfl
  | found rest ih =>
    rw [replaceAll_append_self hp, splitOn_append_self hp,
      join_cons_of_ne_nil (splitOn_ne_nil rest), ih, List.nil_append]
  | skipped c rest hskip ih =>
    obtain ⟨piece, pieces, hrest, hsplit⟩ := exists_splitOn_cons hskip
    rw [replaceAll_cons_of_not_isPrefix hskip, hsplit, ih, hrest]
    exact (join_cons_append r [c] piece pieces).symm

theorem join_splitOn {p t : Text} (hp : p ≠ []) : join p (splitOn p t) = t := by
  rw [← replaceAll_eq_join hp, replaceAll_self hp]

/-- In a joined text each piece is replaced for itself, if the pattern shares no character with the
    separator. -/
theorem replaceAll_join {p r separator : Text} (hp : p ≠ []) (hs : separator ≠ [])
    (hdisjoint : ∀ c ∈ separator, c ∉ p) (pieces : List Text) :
    replaceAll p r (join separator pieces) = join separator (pieces.map (replaceAll p r)) := by
  induction pieces with
  | nil => rfl
  | cons piece pieces ih =>
    cases pieces with
    | nil => rfl
    | cons next pieces =>
      rw [join_cons_cons, List.append_assoc, replaceAll_append_disjoint hp hs hdisjoint, ih]
      simp only [List.map_cons, join_cons_cons, List.append_assoc]

/-- Pieces without the separator are found again in the text that is joined from them. -/
theorem splitOn_join {c : Char} {pieces : List Text} (hne : pieces ≠ [])
    (hc : ∀ piece ∈ pieces, c ∉ piece) : splitOn [c] (join [c] pieces) = pieces := by
  induction pieces with
  | nil => exact absurd rfl hne
  | cons piece pieces ih =>
    have hpiece := hc piece List.mem_cons_self
    cases pieces with
    | nil => exact splitOn_of_not_mem hpiece
    | cons next pieces =>
      have hrest := ih (List.cons_ne_nil next pieces) fun p hp => hc p (List.mem_cons_of_mem _ hp)
      rw [join_cons_cons, List.append_assoc, List.singleton_append, splitOn_append_cons hpiece,
        hrest]

theorem splitOn_append_separator (c : Char) (a b : Text) :
    splitOn [c] (a ++ c :: b) = splitOn [c] a ++ splitOn [c] b := by
  induction a with
  | nil => exact splitOn_append_self (p := [c]) (List.cons_ne_nil c [])
  | cons d a ih =>
    by_cases hd : d = c
    · subst hd
      have hlong := splitOn_append_self (p := [d]) (b := a ++ d :: b) (List.cons_ne_nil d [])
      have hshort := splitOn_append_self (p := [d]) (b := a) (List.cons_ne_nil d [])
      rw [List.singleton_append] at hlong hshort
      rw [List.cons_append, hlong, hshort, ih, List.cons_append]
    · have hbegins : ∀ t, ¬ [c] <+: d :: t := fun t h => hd (List.cons_prefix_cons.mp h).1.symm
      obtain ⟨piece, pieces, hrest, hsplit⟩ := exists_splitOn_cons (hbegins a)
      obtain ⟨first, others, hlong, hjoined⟩ := exists_splitOn_cons (hbegins (a ++ c :: b))
      rw [ih, hrest, List.cons_append] at hlong
      obtain ⟨rfl, rfl⟩ := List.cons.inj hlong
      rw [List.cons_append, hjoined, hsplit, List.cons_append]

/-- What stands between two separators in a joined text is one of its pieces. -/
theorem mem_of_isInfix_join {c : Char} {w : Text} {pieces : List Text}
    (hpieces : ∀ piece ∈ pieces, c ∉ piece) (hw : c ∉ w)
    (hoccurs : c :: (w ++ [c]) <:+: join [c] pieces) : w ∈ pieces := by
  obtain ⟨before, after, hjoin⟩ := hoccurs
  cases pieces with
  | nil => simp [join] at hjoin
  | cons piece pieces =>
    have hsplit := splitOn_join (List.cons_ne_nil piece pieces) hpieces
    have htext : before ++ c :: (w ++ [c]) ++ after = before ++ c :: (w ++ c :: after) := by simp
    rw [← hjoin, htext, splitOn_append_separator, splitOn_append_cons hw] at hsplit
    rw [← hsplit]
    exact List.mem_append_right _ List.mem_cons_self

/-- What is in a joined text comes from a piece or from the separator. -/
theorem mem_join {c : Char} {separator : Text} {pieces : List Text}
    (hc : c ∈ join separator pieces) : c ∈ separator ∨ ∃ piece ∈ pieces, c ∈ piece := by
  induction pieces with
  | nil => cases hc
  | cons piece pieces ih =>
    cases pieces with
    | nil => exact Or.inr ⟨piece, List.mem_cons_self, hc⟩
    | cons next pieces =>
      rw [join_cons_cons, List.mem_append, List.mem_append] at hc
      rcases hc with (hc | hc) | hc
      · exact Or.inr ⟨piece, List.mem_cons_self, hc⟩
      · exact Or.inl hc
      · exact (ih hc).imp_right fun ⟨p, hp, hmem⟩ => ⟨p, List.mem_cons_of_mem _ hp, hmem⟩

/-- What occurs in a joined text and is free of the separator occurs in a piece. -/
theorem exists_isInfix_of_isInfix_join {c : Char} {p : Text} {pieces : List Text} (hne : p ≠ [])
    (hc : c ∉ p) (hoccurs : p <:+: join [c] pieces) : ∃ piece ∈ pieces, p <:+: piece := by
  induction pieces with
  | nil => exact absurd (List.infix_nil.mp hoccurs) hne
  | cons piece pieces ih =>
    cases pieces with
    | nil => exact ⟨piece, List.mem_cons_self, hoccurs⟩
    | cons next pieces =>
      rw [join_cons_cons, List.append_assoc, List.singleton_append,
        isInfix_append_cons_iff hc] at hoccurs
      rcases hoccurs with hoccurs | hoccurs
      · exact ⟨piece, List.mem_cons_self, hoccurs⟩
      · obtain ⟨found, hmem, hin⟩ := ih hoccurs
        exact ⟨found, List.mem_cons_of_mem _ hmem, hin⟩

/-- The characters of the current line are held in reverse. -/
private theorem isInfix_of_mem_linesFrom {current t line : Text}
    (hline : line ∈ linesFrom current t) : line <:+: current.reverse ++ t := by
  have hended : ∀ (current ending rest : Text) {others : List Text},
      line ∈ current.reverse :: others → (line ∈ others → line <:+: rest) →
        line <:+: current.reverse ++ (ending ++ rest) := by
    intro current ending rest others hline hrest
    rcases List.mem_cons.mp hline with rfl | hline
    · exact (List.prefix_append _ _).isInfix
    · rw [← List.append_assoc]
      exact (hrest hline).trans (List.suffix_append _ rest).isInfix
  fun_induction linesFrom current t with
  | case1 current hnone => cases hline
  | case2 current hsome =>
    rw [List.mem_singleton.mp hline]
    exact (List.prefix_append _ _).isInfix
  | case3 current rest ih => exact hended current ['\r', '\n'] rest hline ih
  | case4 current c rest _ hbreak ih => exact hended current [c] rest hline ih
  | case5 current c rest _ hbreak ih =>
    have hlonger := ih hline
    rwa [List.reverse_cons, List.append_assoc] at hlonger

theorem isInfix_of_mem_lines {t line : Text} (hline : line ∈ lines t) : line <:+: t :=
  isInfix_of_mem_linesFrom hline

/-- What is so of each of the ten characters that end a line is so of a line break. -/
theorem of_isLineBreak {p : Char → Prop}
    (hall : ∀ n ∈ [10, 11, 12, 13, 28, 29, 30, 0x85, 0x2028, 0x2029], p (Char.ofNat n)) {c : Char}
    (hc : isLineBreak c) : p c := by
  rw [← Char.ofNat_toNat c]
  refine hall _ ?_
  simp only [isLineBreak, Bool.or_eq_true, Bool.and_eq_true, decide_eq_true_eq, beq_iff_eq] at hc
  simp only [List.mem_cons, List.not_mem_nil, or_false]
  omega

/-- What is before the first line break is held in the current line. -/
private theorem linesFrom_append {a : Text} (ha : ∀ d ∈ a, ¬ isLineBreak d) (current t : Text) :
    linesFrom current (a ++ t) = linesFrom (a.reverse ++ current) t := by
  induction a generalizing current with
  | nil => rfl
  | cons d a ih =>
    have hd : ¬ isLineBreak d := ha d List.mem_cons_self
    have hstep : linesFrom current (d :: (a ++ t)) = linesFrom (d :: current) (a ++ t) := by
      have hreturn : d ≠ '\r' := by
        rintro rfl
        exact hd rfl
      rw [linesFrom.eq_3 _ _ _ fun _ hcons => absurd hcons hreturn, if_neg hd]
    rw [List.cons_append, hstep, ih fun e he => ha e (List.mem_cons_of_mem _ he),
      List.reverse_cons, List.append_assoc, List.singleton_append]

theorem lines_of_not_isLineBreak {a : Text} (hne : a ≠ []) (ha : ∀ d ∈ a, ¬ isLineBreak d) :
    lines a = [a] := by
  have hlines := linesFrom_append ha [] []
  rw [List.append_nil, List.append_nil] at hlines
  rw [lines, hlines, linesFrom, if_neg (by simpa using hne), List.reverse_reverse]

/-- A line break other than a carriage return ends a line alone. -/
theorem lines_append_cons {a : Text} {c : Char} (ha : ∀ d ∈ a, ¬ isLineBreak d)
    (hc : isLineBreak c) (hreturn : c ≠ '\r') (b : Text) :
    lines (a ++ c :: b) = a :: lines b := by
  rw [lines, linesFrom_append ha, linesFrom.eq_3 _ _ _ fun _ hcons => absurd hcons hreturn,
    if_pos hc, List.append_nil, List.reverse_reverse]
  rfl

section

variable {p : Char → Bool} {c : Char}

theorem dropWhile_join (hc : ¬ p c) (pieces : List Text) :
    (join [c] pieces).dropWhile p = join [c] (pieces.modifyHead (·.dropWhile p)) := by
  match pieces with
  | [] => rfl
  | [piece] => rfl
  | piece :: next :: pieces =>
    rw [List.modifyHead_cons, join_cons_cons, join_cons_cons, List.append_assoc,
      List.singleton_append, dropWhile_append_cons hc, List.append_assoc, List.singleton_append]

theorem dropEnd_join (hc : ¬ p c) (pieces : List Text) :
    dropEnd p (join [c] pieces) = join [c] (pieces.modifyLast (dropEnd p)) := by
  rcases List.eq_nil_or_concat pieces with rfl | ⟨front, last, rfl⟩
  · rfl
  rw [List.concat_eq_append, List.modifyLast_concat]
  induction front with
  | nil => rfl
  | cons piece front ih =>
    rw [List.cons_append, List.cons_append, join_cons_of_ne_nil (by simp),
      join_cons_of_ne_nil (by simp), List.singleton_append, dropEnd_append_cons hc, ih,
      List.singleton_append]

/-- Of a joined text the first piece loses its beginning and the last one its end. -/
theorem trimBy_join (hc : ¬ p c) (pieces : List Text) :
    trimBy p (join [c] pieces) =
      join [c] ((pieces.modifyHead (·.dropWhile p)).modifyLast (dropEnd p)) := by
  rw [trimBy, dropWhile_join hc, dropEnd_join hc]

/-- A first piece that is not dropped as a whole loses its beginning. -/
theorem dropWhile_join_cons {separator piece : Text} (hpiece : ∃ d ∈ piece, ¬ p d)
    (pieces : List Text) :
    (join separator (piece :: pieces)).dropWhile p =
      join separator (piece.dropWhile p :: pieces) := by
  obtain ⟨d, hmem, hd⟩ := hpiece
  obtain ⟨a, b, rfl⟩ := List.append_of_mem hmem
  rw [join_append_cons, dropWhile_append_cons hd, dropWhile_append_cons hd, join_append_cons]

end

end RecordFilter.Text
