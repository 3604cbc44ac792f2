import RecordFilter.Proofs.Clause.Words

/-!
Separators: the spaces at which a text is split, told by their places.

A text without separators is one word. Any other text is split at its first separator, and what
follows is split as if it stood alone, so what holds of words is shown along the separators.
-/

namespace RecordFilter.Clause

/-- The text has a space at the place, outside of quotes and parentheses and not after a backslash
    that counts. -/
def IsSeparator (text : Text) (place : Nat) : Prop :=
  text[place]? = some ' ' ∧ (Cursor.scan {} (text.take place)).isOpen

instance (text : Text) (place : Nat) : Decidable (IsSeparator text place) :=
  inferInstanceAs (Decidable (_ ∧ _))

/-- The text with its separators deleted. -/
def withoutSeparators (text : Text) : Text :=
  (text.zipIdx.filter fun (_, place) => ¬ IsSeparator text place).map Prod.fst

/-- From `start` up to `stop` the text has no separator, and no longer stretch around is like
    that. -/
structure IsRun (text : Text) (start stop : Nat) : Prop where
  start_lt : start < stop
  stop_le : stop ≤ text.length
  unbroken : ∀ place, start ≤ place → place < stop → ¬ IsSeparator text place
  before : start = 0 ∨ IsSeparator text (start - 1)
  after : stop = text.length ∨ IsSeparator text stop

theorem unbroken_iff {cursor : Cursor} {text : Text} :
    Unbroken cursor text ↔
      ∀ place, text[place]? = some ' ' → ¬ (cursor.scan (text.take place)).isOpen := by
  induction text generalizing cursor with
  | nil => simp [Unbroken]
  | cons c text ih =>
    rw [Unbroken, ih, Cursor.separates]
    constructor
    · rintro ⟨hfirst, hrest⟩ place hspace
      cases place with
      | zero =>
        obtain rfl : c = ' ' := Option.some.inj hspace
        simpa [Cursor.scan] using hfirst
      | succ place => exact hrest place hspace
    · intro hall
      refine ⟨fun hseparates => ?_, fun place => hall (place + 1)⟩
      obtain ⟨hspace, hopen⟩ := Bool.and_eq_true_iff.mp hseparates
      exact hall 0 (congrArg some (of_decide_eq_true hspace)) hopen

theorem not_isSeparator_of_unbroken {text : Text} (htext : Unbroken {} text) (place : Nat) :
    ¬ IsSeparator text place :=
  fun hseparator => unbroken_iff.mp htext place hseparator.1 hseparator.2

theorem unbroken_or_eq_append (cursor : Cursor) (text : Text) :
    Unbroken cursor text ∨ ∃ before after, text = before ++ ' ' :: after ∧
      Unbroken cursor before ∧ (cursor.scan before).isOpen := by
  induction text generalizing cursor with
  | nil => exact Or.inl trivial
  | cons c text ih =>
    by_cases hseparates : cursor.separates c
    · obtain ⟨hspace, hopen⟩ := Bool.and_eq_true_iff.mp hseparates
      obtain rfl := of_decide_eq_true hspace
      exact Or.inr ⟨[], text, rfl, trivial, hopen⟩
    · rcases ih (cursor.next c) with htext | ⟨before, after, rfl, hbefore, hopen⟩
      · exact Or.inl ⟨hseparates, htext⟩
      · exact Or.inr ⟨c :: before, after, rfl, ⟨hseparates, hbefore⟩, hopen⟩

/-- A text is walked from separator to separator. -/
@[elab_as_elim]
theorem separator_induction {motive : Text → Prop}
    (unbroken : ∀ text, Unbroken {} text → motive text)
    (separated : ∀ before after, Unbroken {} before → (Cursor.scan {} before).isOpen →
      motive after → motive (before ++ ' ' :: after))
    (text : Text) : motive text := by
  obtain ⟨n, hn⟩ : ∃ n, text.length = n := ⟨_, rfl⟩
  induction n using Nat.strongRecOn generalizing text with
  | ind n ih =>
    rcases unbroken_or_eq_append {} text with htext | ⟨before, after, rfl, hbefore, hopen⟩
    · exact unbroken text htext
    · rw [List.length_append, List.length_cons] at hn
      exact separated before after hbefore hopen (ih after.length (by omega) after rfl)

section

variable {before after : Text} (hbefore : Unbroken {} before)
  (hopen : (Cursor.scan {} before).isOpen)

include hbefore in
theorem not_isSeparator_of_lt {place : Nat} (hplace : place < before.length) :
    ¬ IsSeparator (before ++ ' ' :: after) place := by
  rintro ⟨hspace, hthere⟩
  rw [List.getElem?_append_left hplace] at hspace
  rw [List.take_append_of_le_length hplace.le] at hthere
  exact unbroken_iff.mp hbefore place hspace hthere

include hopen in
theorem isSeparator_length : IsSeparator (before ++ ' ' :: after) before.length :=
  ⟨by simp, by simpa using hopen⟩

include hopen in
/-- What follows a separator is scanned as if it stood alone. -/
theorem isSeparator_add_iff {place : Nat} :
    IsSeparator (before ++ ' ' :: after) (before.length + 1 + place) ↔ IsSeparator after place := by
  have hscan : ∀ rest, Cursor.scan {} (before ++ ' ' :: rest) = Cursor.scan {} rest := by
    intro rest
    rw [Cursor.scan_append, Cursor.eq_default_of_isOpen hopen]
    rfl
  rw [IsSeparator, IsSeparator, Nat.add_assoc, Nat.add_comm 1,
    List.getElem?_append_right (by omega),
    List.take_append, List.take_of_length_le (by omega), Nat.add_sub_cancel_left,
    List.take_succ_cons, hscan]
  rfl

include hbefore hopen in
theorem isRun_append_space_iff {start stop : Nat} :
    IsRun (before ++ ' ' :: after) start stop ↔
      (before ≠ [] ∧ start = 0 ∧ stop = before.length) ∨
        ∃ first last, IsRun after first last ∧
          start = before.length + 1 + first ∧ stop = before.length + 1 + last := by
  have hlength : (before ++ ' ' :: after).length = before.length + 1 + after.length := by
    simp only [List.length_append, List.length_cons]
    omega
  have hle : ∀ {place}, IsSeparator (before ++ ' ' :: after) place → before.length ≤ place :=
    fun hplace => Nat.le_of_not_lt fun hlt => not_isSeparator_of_lt hbefore hlt hplace
  constructor
  · intro hrun
    obtain rfl | hstart : start = 0 ∨ before.length + 1 ≤ start := by
      rcases hrun.before with h | h
      · exact Or.inl h
      · have := hle h
        omega
    · have hstop : stop ≤ before.length := Nat.le_of_not_lt fun hlt =>
        hrun.unbroken before.length (Nat.zero_le _) hlt (isSeparator_length hopen)
      have hend : before.length ≤ stop := by
        rcases hrun.after with h | h
        · omega
        · exact hle h
      have hpos := hrun.start_lt
      exact Or.inl ⟨List.length_pos_iff.mp (by omega), rfl, by omega⟩
    · obtain ⟨first, rfl⟩ := Nat.exists_eq_add_of_le hstart
      obtain ⟨last, rfl⟩ := Nat.exists_eq_add_of_le (hstart.trans hrun.start_lt.le)
      refine Or.inr ⟨first, last, ⟨?_, ?_, ?_, ?_, ?_⟩, rfl, rfl⟩
      · have := hrun.start_lt
        omega
      · have := hrun.stop_le
        omega
      · intro place hfirst hlast hplace
        exact hrun.unbroken (before.length + 1 + place) (by omega) (by omega)
          ((isSeparator_add_iff hopen).mpr hplace)
      · cases first with
        | zero => exact Or.inl rfl
        | succ first =>
          refine Or.inr ((isSeparator_add_iff hopen).mp ?_)
          exact hrun.before.resolve_left (by omega)
      · rcases hrun.after with h | h
        · exact Or.inl (by omega)
        · exact Or.inr ((isSeparator_add_iff hopen).mp h)
  · rintro (⟨hne, rfl, rfl⟩ | ⟨first, last, hrun, rfl, rfl⟩)
    · refine ⟨List.length_pos_iff.mpr hne, by omega, ?_, Or.inl rfl,
        Or.inr (isSeparator_length hopen)⟩
      exact fun place _ hlt => not_isSeparator_of_lt hbefore hlt
    · refine ⟨?_, ?_, ?_, ?_, ?_⟩
      · have := hrun.start_lt
        omega
      · have := hrun.stop_le
        omega
      · intro place hfirst hlast hplace
        obtain ⟨place, rfl⟩ := Nat.exists_eq_add_of_le
          ((Nat.le_add_right (before.length + 1) first).trans hfirst)
        exact hrun.unbroken place (by omega) (by omega) ((isSeparator_add_iff hopen).mp hplace)
      · cases first with
        | zero => exact Or.inr (isSeparator_length hopen)
        | succ first =>
          refine Or.inr ((isSeparator_add_iff hopen).mpr ?_)
          exact hrun.before.resolve_left (by omega)
      · rcases hrun.after with rfl | h
        · exact Or.inl hlength.symm
        · exact Or.inr ((isSeparator_add_iff hopen).mpr h)

include hbefore hopen in
theorem withoutSeparators_append_space :
    withoutSeparators (before ++ ' ' :: after) = before ++ withoutSeparators after := by
  have hfirst : before.zipIdx.filter
      (fun (_, place) => ¬ IsSeparator (before ++ ' ' :: after) place) = before.zipIdx := by
    refine List.filter_eq_self.mpr fun (_, place) hmem => decide_eq_true ?_
    exact not_isSeparator_of_lt hbefore (List.snd_lt_of_mem_zipIdx hmem)
  have hrest : (after.zipIdx (before.length + 1)).filter
      (fun (_, place) => ¬ IsSeparator (before ++ ' ' :: after) place) =
        (after.zipIdx.filter fun (_, place) => ¬ IsSeparator after place).map
          fun (c, place) => (c, before.length + 1 + place) := by
    rw [List.zipIdx_eq_map_add, List.filter_map]
    refine congrArg _ (List.filter_congr fun (_, place) _ => ?_)
    simp [isSeparator_add_iff hopen]
  have hspace : IsSeparator (before ++ ' ' :: after) before.length := isSeparator_length hopen
  rw [withoutSeparators, List.zipIdx_append, List.filter_append, hfirst, Nat.zero_add,
    List.zipIdx_cons, List.filter_cons_of_neg (by simpa using hspace), hrest, List.map_append,
    List.zipIdx_map_fst, List.map_map]
  rfl

end

theorem withoutSeparators_of_unbroken {text : Text} (htext : Unbroken {} text) :
    withoutSeparators text = text := by
  have hall : text.zipIdx.filter (fun (_, place) => ¬ IsSeparator text place) = text.zipIdx :=
    List.filter_eq_self.mpr fun (_, place) _ =>
      decide_eq_true (not_isSeparator_of_unbroken htext place)
  rw [withoutSeparators, hall, List.zipIdx_map_fst]

theorem words_eq_wordOf {text : Text} (htext : Unbroken {} text) : words text = wordOf text := by
  cases text with
  | nil => rfl
  | cons c text => exact words_of_unbroken (List.cons_ne_nil c text) htext

theorem mem_wordOf_iff {word text : Text} : word ∈ wordOf text ↔ word = text ∧ text ≠ [] := by
  cases text <;> simp [wordOf]

theorem flatten_wordOf (text : Text) : (wordOf text).flatten = text := by
  cases text <;> simp [wordOf]

/-- A word is not empty and has no separator. -/
theorem unbroken_of_mem_words {text word : Text} (hword : word ∈ words text) :
    word ≠ [] ∧ Unbroken {} word := by
  induction text using separator_induction with
  | unbroken text htext =>
    rw [words_eq_wordOf htext, mem_wordOf_iff] at hword
    obtain ⟨rfl, hne⟩ := hword
    exact ⟨hne, htext⟩
  | separated before after hbefore hopen ih =>
    rw [words_append_space hbefore hopen, List.mem_append, mem_wordOf_iff] at hword
    rcases hword with ⟨rfl, hne⟩ | hword
    · exact ⟨hne, hbefore⟩
    · exact ih hword

theorem words_eq_nil_iff {text : Text} : words text = [] ↔ ∀ c ∈ text, c = ' ' := by
  constructor
  · intro hnone
    induction text using separator_induction with
    | unbroken text htext =>
      rw [words_eq_wordOf htext] at hnone
      cases text with
      | nil => simp
      | cons c text => cases hnone
    | separated before after hbefore hopen ih =>
      rw [words_append_space hbefore hopen, List.append_eq_nil_iff] at hnone
      obtain ⟨hfirst, hrest⟩ := hnone
      cases before with
      | nil => exact List.forall_mem_cons.mpr ⟨rfl, ih hrest⟩
      | cons c before => cases hfirst
  · intro hspaces
    have hskip := words_append_of_spaces hspaces []
    rw [List.append_nil] at hskip
    exact hskip

/-- Only the last word can leave a quote, a parenthesis or a backslash open. -/
theorem isOpen_of_mem_dropLast_words {text word : Text} (hword : word ∈ (words text).dropLast) :
    (Cursor.scan {} word).isOpen := by
  induction text using separator_induction with
  | unbroken text htext =>
    rw [words_eq_wordOf htext] at hword
    cases text <;> simp [wordOf] at hword
  | separated before after hbefore hopen ih =>
    rw [words_append_space hbefore hopen] at hword
    by_cases hnone : words after = []
    · rw [hnone, List.append_nil] at hword
      have hmem := List.dropLast_subset _ hword
      obtain ⟨rfl, -⟩ := mem_wordOf_iff.mp hmem
      exact hopen
    · rw [List.dropLast_append_of_ne_nil hnone, List.mem_append, mem_wordOf_iff] at hword
      rcases hword with ⟨rfl, -⟩ | hword
      · exact hopen
      · exact ih hword

theorem flatten_words (text : Text) : (words text).flatten = withoutSeparators text := by
  induction text using separator_induction with
  | unbroken text htext =>
    rw [words_eq_wordOf htext, flatten_wordOf, withoutSeparators_of_unbroken htext]
  | separated before after hbefore hopen ih =>
    rw [words_append_space hbefore hopen, List.flatten_append, flatten_wordOf, ih,
      withoutSeparators_append_space hbefore hopen]

theorem isRun_iff_of_unbroken {text : Text} (htext : Unbroken {} text) {start stop : Nat} :
    IsRun text start stop ↔ text ≠ [] ∧ start = 0 ∧ stop = text.length := by
  have hnone := not_isSeparator_of_unbroken htext
  constructor
  · intro hrun
    have hstart : start = 0 := hrun.before.resolve_right (hnone _)
    have hstop : stop = text.length := hrun.after.resolve_right (hnone _)
    have hpos := hrun.start_lt
    exact ⟨List.length_pos_iff.mp (by omega), hstart, hstop⟩
  · rintro ⟨hne, rfl, rfl⟩
    exact ⟨List.length_pos_iff.mpr hne, le_rfl, fun place _ _ => hnone place, Or.inl rfl,
      Or.inl rfl⟩

/-- The place of a text that is one word in itself. -/
def wholeRun (text : Text) : List (Nat × Nat) :=
  (wordOf text).map fun word => (0, word.length)

theorem mem_wholeRun_iff {text : Text} {start stop : Nat} :
    (start, stop) ∈ wholeRun text ↔ text ≠ [] ∧ start = 0 ∧ stop = text.length := by
  cases text <;> simp [wholeRun, wordOf]

theorem wordOf_eq_map_wholeRun (text rest : Text) :
    wordOf text = (wholeRun text).map fun run => (text ++ rest).extract run.1 run.2 := by
  cases text <;> simp [wholeRun, wordOf, List.extract_eq_take_drop]

/-- The words of a text are its runs, in their order. -/
theorem exists_runs (text : Text) :
    ∃ runs : List (Nat × Nat), runs.Pairwise (fun a b => a.2 < b.1) ∧
      (∀ start stop, (start, stop) ∈ runs ↔ IsRun text start stop) ∧
      words text = runs.map fun run => text.extract run.1 run.2 := by
  induction text using separator_induction with
  | unbroken text htext =>
    refine ⟨wholeRun text, ?_, fun start stop => ?_, ?_⟩
    · cases text <;> simp [wholeRun, wordOf]
    · rw [mem_wholeRun_iff, isRun_iff_of_unbroken htext]
    · rw [words_eq_wordOf htext]
      simpa using wordOf_eq_map_wholeRun text []
  | separated before after hbefore hopen ih =>
    obtain ⟨runs, hsorted, hruns, hwords⟩ := ih
    let shift : Nat × Nat → Nat × Nat := fun run =>
      (before.length + 1 + run.1, before.length + 1 + run.2)
    have hextract : ∀ start stop, (before ++ ' ' :: after).extract
        (before.length + 1 + start) (before.length + 1 + stop) = after.extract start stop := by
      intro start stop
      have hdrop :
          (before ++ ' ' :: after).drop (before.length + 1 + start) = after.drop start := by
        rw [Nat.add_assoc, ← List.drop_drop, List.drop_left, Nat.add_comm 1, List.drop_succ_cons]
      rw [List.extract_eq_take_drop, List.extract_eq_take_drop, hdrop, Nat.add_sub_add_left]
    refine ⟨wholeRun before ++ runs.map shift, ?_, fun start stop => ?_, ?_⟩
    · rw [List.pairwise_append]
      refine ⟨?_, List.pairwise_map.mpr (hsorted.imp fun h => Nat.add_lt_add_left h _), ?_⟩
      · cases before <;> simp [wholeRun, wordOf]
      · rintro ⟨start, stop⟩ hfirst ⟨next, last⟩ hmem
        obtain ⟨-, -, rfl⟩ := mem_wholeRun_iff.mp hfirst
        obtain ⟨run, -, hshift⟩ := List.mem_map.mp hmem
        obtain ⟨rfl, -⟩ := Prod.mk.inj hshift
        change before.length < before.length + 1 + run.1
        omega
    · rw [isRun_append_space_iff hbefore hopen, List.mem_append, mem_wholeRun_iff, List.mem_map]
      refine or_congr_right ⟨?_, ?_⟩
      · rintro ⟨⟨first, last⟩, hmem, hshift⟩
        obtain ⟨rfl, rfl⟩ := Prod.mk.inj hshift
        exact ⟨first, last, (hruns first last).mp hmem, rfl, rfl⟩
      · rintro ⟨first, last, hrun, rfl, rfl⟩
        exact ⟨(first, last), (hruns first last).mpr hrun, rfl⟩
    · rw [words_append_space hbefore hopen, hwords, List.map_append, List.map_map,
        ← wordOf_eq_map_wholeRun]
      refine congrArg _ (List.map_congr_left fun run _ => ?_)
      exact (hextract run.1 run.2).symm

/-- The words of a text are its runs between separators, in their order. None of them is empty,
    together they are the text without its separators, only the last one can leave a quote, a
    parenthesis or a backslash open, and they are found again in the text that is joined from them
    by single spaces, each of them also by itself. -/
theorem words_runs_between_separators (text : Text) :
    (∃ runs : List (Nat × Nat), runs.Pairwise (fun a b => a.2 < b.1) ∧
      (∀ start stop, (start, stop) ∈ runs ↔ IsRun text start stop) ∧
      words text = runs.map fun run => text.extract run.1 run.2) ∧
    (∀ word ∈ words text, word ≠ []) ∧
    (words text).flatten = withoutSeparators text ∧
    (∀ word ∈ (words text).dropLast, (Cursor.scan {} word).isOpen) ∧
    words (Text.join [' '] (words text)) = words text ∧
    ∀ word ∈ words text, words word = [word] := by
  have hne : ∀ word ∈ words text, word ≠ [] := fun word hword => (unbroken_of_mem_words hword).1
  have hunbroken : ∀ word ∈ words text, Unbroken {} word :=
    fun word hword => (unbroken_of_mem_words hword).2
  have hopen : ∀ word ∈ (words text).dropLast, (Cursor.scan {} word).isOpen :=
    fun word hword => isOpen_of_mem_dropLast_words hword
  exact ⟨exists_runs text, hne, flatten_words text, hopen, words_join hne hunbroken hopen,
    fun word hword => words_of_unbroken (hne word hword) (hunbroken word hword)⟩

/-- A parenthesis that is closed without being open has no effect, and a quote that stays open
    takes the rest. -/
example : words "a) (b c)  'd e".toList = ["a)", "(b c)", "'d e"].map String.toList := by decide

end RecordFilter.Clause
