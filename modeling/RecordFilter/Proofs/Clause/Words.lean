import RecordFilter.Clause.Split
import RecordFilter.Proofs.Text.Pieces

/-!
Words of a text: which texts are one word, and how words that are joined come apart again.
-/

namespace RecordFilter.Clause

namespace Cursor

/-- The place after a text. -/
def scan (cursor : Cursor) (text : Text) : Cursor :=
  text.foldl next cursor

theorem scan_cons (cursor : Cursor) (c : Char) (text : Text) :
    cursor.scan (c :: text) = (cursor.next c).scan text :=
  rfl

theorem scan_append (cursor : Cursor) (a b : Text) :
    cursor.scan (a ++ b) = (cursor.scan a).scan b :=
  List.foldl_append

/-- A place that is open is like the beginning of a text. -/
theorem eq_default_of_isOpen {cursor : Cursor} (hopen : cursor.isOpen) : cursor = {} := by
  obtain ⟨quote, depth, escaped⟩ := cursor
  simp only [isOpen, Bool.and_eq_true, Bool.not_eq_true', Option.isNone_iff_eq_none,
    decide_eq_true_eq] at hopen
  obtain ⟨⟨rfl, rfl⟩, rfl⟩ := hopen
  rfl

/-- Whether a character is nothing that a scan heeds outside of quotes. -/
def isPlain (c : Char) : Bool :=
  !isQuote c && c ≠ '\\' && c ≠ '(' && c ≠ ')'

theorem isPlain_iff {c : Char} :
    isPlain c ↔ c ≠ '\'' ∧ c ≠ '"' ∧ c ≠ '\\' ∧ c ≠ '(' ∧ c ≠ ')' := by
  simp [isPlain, isQuote, and_assoc]

theorem next_of_isPlain {depth : Nat} {c : Char} (hc : isPlain c) :
    next { depth } c = { depth } := by
  simp only [isPlain, Bool.and_eq_true, Bool.not_eq_true', decide_eq_true_eq] at hc
  obtain ⟨⟨⟨hquote, hback⟩, hleft⟩, hright⟩ := hc
  simp [next, hquote, hback, hleft, hright]

theorem scan_of_isPlain {depth : Nat} {text : Text} (htext : ∀ c ∈ text, isPlain c) :
    scan { depth } text = { depth } := by
  induction text with
  | nil => rfl
  | cons c text ih =>
    rw [scan_cons, next_of_isPlain (htext c List.mem_cons_self)]
    exact ih fun d hd => htext d (List.mem_cons_of_mem _ hd)

end Cursor

/-- No character of the text separates words, when it is scanned from a place on. -/
def Unbroken : Cursor → Text → Prop
  | _, [] => True
  | cursor, c :: rest => ¬ cursor.separates c ∧ Unbroken (cursor.next c) rest

theorem unbroken_append {cursor : Cursor} {a b : Text} (ha : Unbroken cursor a)
    (hb : Unbroken (cursor.scan a) b) : Unbroken cursor (a ++ b) := by
  induction a generalizing cursor with
  | nil => exact hb
  | cons c a ih => exact ⟨ha.1, ih ha.2 hb⟩

theorem unbroken_of_not_mem {cursor : Cursor} {text : Text} (hspace : ' ' ∉ text) :
    Unbroken cursor text := by
  induction text generalizing cursor with
  | nil => trivial
  | cons c text ih =>
    rw [List.mem_cons, not_or] at hspace
    refine ⟨?_, ih hspace.2⟩
    simp [Cursor.separates, Ne.symm hspace.1]

theorem unbroken_quoted {q : Char} {depth : Nat} {text : Text} (hquote : q ∉ text)
    (hback : '\\' ∉ text) : Unbroken { quote := some q, depth } text := by
  induction text with
  | nil => trivial
  | cons c text ih =>
    rw [List.mem_cons, not_or] at hquote hback
    have hnext : Cursor.next { quote := some q, depth } c = { quote := some q, depth } := by
      simp [Cursor.next, Ne.symm hback.1, Ne.symm hquote.1]
    refine ⟨by simp [Cursor.separates, Cursor.isOpen], ?_⟩
    rw [hnext]
    exact ih hquote.2 hback.2

theorem wordsFrom_append_of_unbroken {cursor : Cursor} {current word rest : Text}
    (hword : Unbroken cursor word) :
    wordsFrom cursor current (word ++ rest) =
      wordsFrom (cursor.scan word) (word.reverse ++ current) rest := by
  induction word generalizing cursor current with
  | nil => rfl
  | cons c word ih =>
    rw [List.cons_append, wordsFrom, if_neg hword.1, ih hword.2, Cursor.scan_cons,
      List.reverse_cons, List.append_assoc, List.singleton_append]

/-- A text without a separating space is one word. -/
theorem words_of_unbroken {word : Text} (hne : word ≠ []) (hword : Unbroken {} word) :
    words word = [word] := by
  have hscan : wordsFrom {} [] (word ++ []) = _ := wordsFrom_append_of_unbroken hword
  simp only [List.append_nil] at hscan
  rw [words, hscan, wordsFrom, List.reverse_reverse, wordOf]
  simp [hne]

/-- What stands before the first separating space is a word, unless it is empty. -/
theorem words_append_space {word rest : Text} (hword : Unbroken {} word)
    (hopen : (Cursor.scan {} word).isOpen) :
    words (word ++ ' ' :: rest) = wordOf word ++ words rest := by
  have hscan : wordsFrom {} [] (word ++ ' ' :: rest) = _ := wordsFrom_append_of_unbroken hword
  rw [Cursor.eq_default_of_isOpen hopen, List.append_nil] at hscan
  rw [words, hscan, wordsFrom, if_pos (by decide), List.reverse_reverse, words]

theorem words_space_cons (t : Text) : words (' ' :: t) = words t :=
  @words_append_space [] t trivial rfl

theorem words_append_of_spaces {lead : Text} (hlead : ∀ c ∈ lead, c = ' ') (t : Text) :
    words (lead ++ t) = words t := by
  induction lead with
  | nil => rfl
  | cons c lead ih =>
    obtain rfl := hlead c List.mem_cons_self
    rw [List.cons_append, words_space_cons]
    exact ih fun d hd => hlead d (List.mem_cons_of_mem _ hd)

/-- Where nothing is heeded but spaces, a word goes as far as the next space. -/
theorem exists_words_of_ne_space {c : Char} {t : Text} (hc : c ≠ ' ')
    (hplain : ∀ d ∈ c :: t, Cursor.isPlain d) :
    ∃ others, words (c :: t) = (c :: t).takeWhile (· ≠ ' ') :: others := by
  have hfirst : (c :: t).takeWhile (· ≠ ' ') = c :: t.takeWhile (· ≠ ' ') := by
    rw [List.takeWhile_cons_of_pos (by simpa using hc)]
  have hsplit := List.takeWhile_append_dropWhile (p := (· ≠ ' ')) (l := c :: t)
  have hspace : ' ' ∉ (c :: t).takeWhile (· ≠ ' ') :=
    fun hmem => absurd (List.mem_takeWhile_imp hmem) (by decide)
  have hopen : Cursor.scan {} ((c :: t).takeWhile (· ≠ ' ')) = {} :=
    Cursor.scan_of_isPlain fun d hd => hplain d ((List.takeWhile_prefix _).subset hd)
  cases hrest : (c :: t).dropWhile (· ≠ ' ') with
  | nil =>
    rw [hrest, List.append_nil] at hsplit
    rw [hsplit]
    exact ⟨[], words_of_unbroken (List.cons_ne_nil c t) (unbroken_of_not_mem (hsplit ▸ hspace))⟩
  | cons d rest =>
    have hd : d = ' ' := by
      have hhead := List.head?_dropWhile_not (fun x : Char => decide (x ≠ ' ')) (c :: t)
      rw [hrest] at hhead
      simpa using hhead
    rw [hrest, hd] at hsplit
    refine ⟨words rest, ?_⟩
    rw [← hsplit, words_append_space (unbroken_of_not_mem hspace) (by rw [hopen]; rfl), hsplit,
      hfirst]
    rfl

/-- The first word of a text in which nothing is heeded but spaces is what stands between its first
    spaces and the next one. -/
theorem exists_words_eq_cons {t : Text} (hplain : ∀ c ∈ t, Cursor.isPlain c)
    (ht : ∃ c ∈ t, c ≠ ' ') :
    ∃ others, words t = (t.dropWhile (· = ' ')).takeWhile (· ≠ ' ') :: others := by
  induction t with
  | nil => exact absurd ht (by simp)
  | cons c t ih =>
    by_cases hc : c = ' '
    · subst hc
      rw [words_space_cons, List.dropWhile_cons_of_pos (by decide)]
      exact ih (fun d hd => hplain d (List.mem_cons_of_mem _ hd)) (by simpa using ht)
    · rw [List.dropWhile_cons_of_neg (by simpa using hc)]
      exact exists_words_of_ne_space hc hplain

/-- Words that leave quotes and parentheses behind them are found again when they are joined. What
    the last of them leaves open does not matter. -/
theorem words_join {pieces : List Text} (hne : ∀ piece ∈ pieces, piece ≠ [])
    (hpieces : ∀ piece ∈ pieces, Unbroken {} piece)
    (hopen : ∀ piece ∈ pieces.dropLast, (Cursor.scan {} piece).isOpen) :
    words (Text.join [' '] pieces) = pieces := by
  induction pieces with
  | nil => rfl
  | cons piece pieces ih =>
    have hfirst : piece ∈ piece :: pieces := List.mem_cons_self
    cases pieces with
    | nil => exact words_of_unbroken (hne piece hfirst) (hpieces piece hfirst)
    | cons next pieces =>
      have hrest := ih (fun p hp => hne p (List.mem_cons_of_mem _ hp))
        (fun p hp => hpieces p (List.mem_cons_of_mem _ hp))
        fun p hp => hopen p (List.mem_cons_of_mem _ hp)
      rw [Text.join_cons_cons, List.append_assoc, List.singleton_append,
        words_append_space (hpieces piece hfirst) (hopen piece List.mem_cons_self), hrest, wordOf]
      simp [hne piece hfirst]

end RecordFilter.Clause
