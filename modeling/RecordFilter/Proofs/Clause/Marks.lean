import RecordFilter.Proofs.Clause.Words
import RecordFilter.Proofs.Text.Search

/-!
Clauses without spaces of their own, and what becomes of their list operators while a text is
split: each is marked by itself, whatever clauses stand around it, and put back afterwards.
-/

namespace RecordFilter

namespace Operator

/-- The operator as it stands in a clause: a word between spaces, or signs. -/
def written (op : Operator) : Text :=
  if op.takesList then op.token else op.text

/-- The operator as it stands in a clause while a text is split. -/
def mark : Operator → Text
  | isIn => Clause.inMark
  | notIn => Clause.notInMark
  | op => op.text

/-- Where `not in` stands between blanks, `in` does too. -/
theorem isIn_token_isInfix : isIn.token <:+: notIn.token :=
  ⟨[' ', 'n', 'o', 't'], [], rfl⟩

end Operator

namespace Clause

/-- What a clause is put together of. -/
structure Parts where
  before : Text
  operator : Operator
  after : Text

namespace Parts

/-- The clause. -/
def text (p : Parts) : Text :=
  p.before ++ p.operator.written ++ p.after

/-- The clause with a mark for a list operator. -/
def marked (p : Parts) : Text :=
  p.before ++ p.operator.mark ++ p.after

/-- The spaces around a list operator are the only ones of the clause. A list is in parentheses. -/
structure Tight (p : Parts) : Prop where
  space_not_mem_before : ' ' ∉ p.before
  space_not_mem_after : ' ' ∉ p.after
  after_of_takesList : p.operator.takesList → p.after.head? = some '('

/-- The spaces around a list operator are the only ones of the clause, and no word before it can be
    taken for a part of a list operator. A list is in parentheses. -/
structure Separate (p : Parts) : Prop where
  before_ne_nil : p.before ≠ []
  space_not_mem_before : ' ' ∉ p.before
  space_not_mem_after : ' ' ∉ p.after
  before_ne_in : p.before ≠ ['i', 'n']
  before_ne_not : p.before ≠ ['n', 'o', 't']
  after_of_takesList : p.operator.takesList → p.after.head? = some '('

/-- Two low lines are never next to each other in what stands around the operator. -/
structure Unmarked (p : Parts) : Prop where
  before : ¬ ['_', '_'] <:+: p.before
  after : ¬ ['_', '_'] <:+: p.after

theorem Separate.tight {p : Parts} (hp : p.Separate) : p.Tight :=
  ⟨hp.space_not_mem_before, hp.space_not_mem_after, hp.after_of_takesList⟩

theorem text_of_takesList {op : Operator} (hop : op.takesList) (before after : Text) :
    text ⟨before, op, after⟩ = before ++ (op.token ++ after) := by
  rw [text, Operator.written, if_pos hop, List.append_assoc]

end Parts

/-- Without the shorter list operator there is nothing to be marked. -/
theorem protect_eq_self {t : Text} (hin : ¬ Operator.isIn.token <:+: t) : protect t = t := by
  have hnotIn : ¬ Operator.notIn.token <:+: t :=
    fun hoccurs => hin (Operator.isIn_token_isInfix.trans hoccurs)
  rw [protect, Text.replaceAll_eq_self hnotIn, Text.replaceAll_eq_self hin]

theorem protect_append_of_not_mem {a b : Text} (ha : ' ' ∉ a) :
    protect (a ++ b) = a ++ protect b := by
  have hnotIn : Text.Clear Operator.notIn.token a b := Text.clear_of_not_mem ha
  have hin : Text.Clear Operator.isIn.token a
      (Text.replaceAll Operator.notIn.token notInMark b) := Text.clear_of_not_mem ha
  rw [protect, Text.replaceAll_append_of_clear hnotIn, Text.replaceAll_append_of_clear hin, protect]

private theorem protect_notIn {b : Text} :
    protect (Operator.notIn.token ++ b) = notInMark ++ protect b := by
  have hmark : Text.Clear Operator.isIn.token notInMark
      (Text.replaceAll Operator.notIn.token notInMark b) := Text.clear_of_not_mem (by decide)
  rw [protect, Text.replaceAll_append_self (by decide), Text.replaceAll_append_of_clear hmark,
    protect]

private theorem protect_isIn {b : Text} :
    protect (Operator.isIn.token ++ '(' :: b) = inMark ++ protect ('(' :: b) := by
  have hnotIn : Text.Clear Operator.notIn.token Operator.isIn.token ('(' :: b) := by
    simp [Text.Clear, Operator.token, Operator.text, List.cons_prefix_cons]
  rw [protect, Text.replaceAll_append_of_clear hnotIn, Text.replaceAll_append_self (by decide),
    protect]

namespace Parts

variable {p : Parts}

theorem Tight.protect_text_append (hp : p.Tight) (rest : Text) :
    protect (p.text ++ rest) = p.marked ++ protect rest := by
  obtain ⟨before, op, after⟩ := p
  obtain ⟨hbefore, hafter, hlist⟩ := hp
  simp only at hbefore hafter hlist
  have htail := protect_append_of_not_mem (b := rest) hafter
  have hop : protect (op.written ++ (after ++ rest)) = op.mark ++ (after ++ protect rest) := by
    cases op with
    | notIn => rw [← htail]; exact protect_notIn
    | isIn =>
      obtain ⟨tail, rfl⟩ := List.head?_eq_some_iff.mp (hlist (by decide))
      rw [← htail]
      exact protect_isIn
    | _ => rw [← htail]; exact protect_append_of_not_mem (by decide)
  simp only [text, marked, List.append_assoc]
  rw [protect_append_of_not_mem hbefore, hop]

private theorem not_begins_of_ne {w a b : Text} {x : Char} (ha : ' ' ∉ a) (hne : a ≠ w)
    (hx : x ∉ w) : ¬ w ++ [' '] <+: a ++ x :: b := by
  intro hbegins
  induction a generalizing w with
  | nil =>
    cases w with
    | nil => exact hne rfl
    | cons c w =>
      obtain ⟨hc, _⟩ := List.cons_prefix_cons.mp hbegins
      exact hx (hc ▸ List.mem_cons_self)
  | cons d a ih =>
    rw [List.mem_cons, not_or] at ha
    cases w with
    | nil =>
      obtain ⟨hd, _⟩ := List.cons_prefix_cons.mp hbegins
      exact ha.1 hd
    | cons c w =>
      obtain ⟨hc, hrest⟩ := List.cons_prefix_cons.mp hbegins
      refine ih ha.2 ?_ (fun hmem => hx (List.mem_cons_of_mem _ hmem)) hrest
      rintro rfl
      exact hne (by rw [hc])

private theorem written_eq_cons (op : Operator) :
    ∃ x rest, op.written = x :: rest ∧ x ∉ ['n', 'o', 't'] := by
  cases op <;> exact ⟨_, _, rfl, by decide⟩

private theorem replaceAll_written_eq_cons (op : Operator) (b : Text) :
    ∃ x rest, Text.replaceAll Operator.notIn.token notInMark (op.written ++ b) = x :: rest ∧
      x ∉ ['i', 'n'] := by
  cases op with
  | notIn => exact ⟨'_', _, Text.replaceAll_append_self (by decide), by decide⟩
  | _ =>
    refine ⟨_, _, Text.replaceAll_cons_of_not_isPrefix ?_, by decide⟩
    simp [Operator.token, Operator.text, List.cons_prefix_cons]

/-- The space before a clause is no part of a list operator. -/
theorem Separate.protect_space_cons (hp : p.Separate) (rest : Text) :
    protect (' ' :: (p.text ++ rest)) = ' ' :: protect (p.text ++ rest) := by
  obtain ⟨before, op, after⟩ := p
  obtain ⟨_, hbefore, _, hin, hnot, _⟩ := hp
  simp only at hbefore hin hnot
  have htext : text ⟨before, op, after⟩ ++ rest = before ++ (op.written ++ (after ++ rest)) := by
    simp [text]
  have hfirst : ¬ Operator.notIn.token <+: ' ' :: (text ⟨before, op, after⟩ ++ rest) := by
    obtain ⟨x, tail, hwritten, hx⟩ := written_eq_cons op
    rw [htext, hwritten]
    intro hbegins
    obtain ⟨_, htoken⟩ := List.cons_prefix_cons.mp hbegins
    have hword : ['n', 'o', 't'] ++ [' '] <+: before ++ x :: (tail ++ (after ++ rest)) :=
      List.IsPrefix.trans (by decide) htoken
    exact not_begins_of_ne hbefore hnot hx hword
  have hclear : Text.Clear Operator.notIn.token before (op.written ++ (after ++ rest)) :=
    Text.clear_of_not_mem hbefore
  have hsecond : ¬ Operator.isIn.token <+: ' ' ::
      Text.replaceAll Operator.notIn.token notInMark (text ⟨before, op, after⟩ ++ rest) := by
    obtain ⟨x, tail, hreplaced, hx⟩ := replaceAll_written_eq_cons op (after ++ rest)
    rw [htext, Text.replaceAll_append_of_clear hclear, hreplaced]
    intro hbegins
    obtain ⟨_, htoken⟩ := List.cons_prefix_cons.mp hbegins
    exact not_begins_of_ne hbefore hin hx htoken
  rw [protect, Text.replaceAll_cons_of_not_isPrefix hfirst,
    Text.replaceAll_cons_of_not_isPrefix hsecond, protect]

theorem protect_join {parts : List Parts} (hparts : ∀ p ∈ parts, p.Separate) :
    protect (Text.join [' '] (parts.map text)) = Text.join [' '] (parts.map marked) := by
  induction parts with
  | nil => rfl
  | cons p parts ih =>
    have hp := hparts p List.mem_cons_self
    cases parts with
    | nil => simpa [Text.join, protect, Text.replaceAll, Text.replaceFrom] using
        hp.tight.protect_text_append []
    | cons q parts =>
      have hrest := ih fun r hr => hparts r (List.mem_cons_of_mem _ hr)
      have hq := hparts q (List.mem_cons_of_mem _ List.mem_cons_self)
      obtain ⟨tail, htail⟩ : ∃ tail, Text.join [' '] ((q :: parts).map text) = q.text ++ tail := by
        cases parts with
        | nil => exact ⟨[], (List.append_nil _).symm⟩
        | cons r parts => exact ⟨_, List.append_assoc ..⟩
      simp only [List.map_cons, Text.join_cons_cons, List.append_assoc, List.singleton_append]
      simp only [List.map_cons] at hrest htail
      rw [hp.tight.protect_text_append, htail, hq.protect_space_cons, ← htail, hrest]

end Parts

private theorem clear_of_not_isInfix_low {a b mark : Text} {x y : Char}
    (ha : ¬ ['_', '_'] <:+: a) (hx : x ≠ '_') :
    Text.Clear ('_' :: '_' :: x :: mark) a ('_' :: '_' :: y :: b) := by
  induction a with
  | nil => trivial
  | cons c a ih =>
    refine ⟨?_, ih fun hoccurs => ha (List.infix_cons hoccurs)⟩
    intro hbegins
    obtain ⟨hc, hrest⟩ := List.cons_prefix_cons.mp hbegins
    cases a with
    | nil =>
      simp only [List.nil_append, List.cons_prefix_cons] at hrest
      exact hx hrest.2.1
    | cons d a =>
      obtain ⟨hd, _⟩ := List.cons_prefix_cons.mp hrest
      exact ha ⟨[], a, by simp [← hc, ← hd]⟩

private theorem replaceAll_low_eq_self {mark r t : Text} (ht : ¬ ['_', '_'] <:+: t) :
    Text.replaceAll ('_' :: '_' :: mark) r t = t := by
  apply Text.replaceAll_eq_self
  intro hoccurs
  exact ht (List.IsInfix.trans ⟨[], mark, rfl⟩ hoccurs)

private theorem notInMark_eq :
    notInMark = '_' :: '_' :: 'N' :: ['O', 'T', '_', 'I', 'N', '_', '_'] :=
  rfl

private theorem inMark_eq : inMark = '_' :: '_' :: 'I' :: ['N', '_', '_'] :=
  rfl

theorem unprotect_eq_self {t : Text} (ht : ¬ ['_', '_'] <:+: t) : unprotect t = t := by
  rw [unprotect, notInMark_eq, replaceAll_low_eq_self ht, inMark_eq, replaceAll_low_eq_self ht]

private theorem unprotect_signs {a b signs : Text} {c : Char} (ha : ¬ ['_', '_'] <:+: a)
    (hb : ¬ ['_', '_'] <:+: b) (hc : c ∉ ['_', '_']) (hsigns : '_' ∉ signs) :
    unprotect (a ++ (c :: signs ++ b)) = a ++ (c :: signs ++ b) := by
  apply unprotect_eq_self
  rw [List.cons_append]
  intro hoccurs
  rcases (Text.isInfix_append_cons_iff hc).mp hoccurs with h | h
  · exact ha h
  · exact hb (Text.isInfix_of_append_right (by simpa using hsigns) h)

private theorem unprotect_notInMark {a b : Text} (ha : ¬ ['_', '_'] <:+: a)
    (hb : ¬ ['_', '_'] <:+: '(' :: b) :
    unprotect (a ++ (notInMark ++ '(' :: b)) = a ++ (Operator.notIn.token ++ '(' :: b) := by
  have hbefore : Text.Clear notInMark a (notInMark ++ '(' :: b) :=
    clear_of_not_isInfix_low ha (by decide)
  have hlow : ¬ ['_', '_'] <:+: a ++ (Operator.notIn.token ++ '(' :: b) := by
    intro hoccurs
    rcases (Text.isInfix_append_cons_iff (by decide)).mp hoccurs with h | h
    · exact ha h
    · exact hb (Text.isInfix_of_append_right (a := ['n', 'o', 't', ' ', 'i', 'n', ' '])
        (by decide) h)
  rw [unprotect, Text.replaceAll_append_of_clear hbefore, Text.replaceAll_append_self (by decide),
    notInMark_eq, replaceAll_low_eq_self hb, inMark_eq, replaceAll_low_eq_self hlow]

private theorem unprotect_inMark {a b : Text} (ha : ¬ ['_', '_'] <:+: a)
    (hb : ¬ ['_', '_'] <:+: '(' :: b) :
    unprotect (a ++ (inMark ++ '(' :: b)) = a ++ (Operator.isIn.token ++ '(' :: b) := by
  have hbefore : Text.Clear notInMark a (inMark ++ '(' :: b) :=
    clear_of_not_isInfix_low ha (by decide)
  have hmark : Text.Clear notInMark inMark ('(' :: b) := by
    simp [Text.Clear, notInMark_eq, inMark_eq, List.cons_prefix_cons]
  have hagain : Text.Clear inMark a (inMark ++ '(' :: b) :=
    clear_of_not_isInfix_low ha (by decide)
  have hrest : Text.replaceAll notInMark Operator.notIn.token ('(' :: b) = '(' :: b :=
    replaceAll_low_eq_self hb
  have hrest' : Text.replaceAll inMark Operator.isIn.token ('(' :: b) = '(' :: b :=
    replaceAll_low_eq_self hb
  rw [unprotect, Text.replaceAll_append_of_clear hbefore, Text.replaceAll_append_of_clear hmark,
    hrest, Text.replaceAll_append_of_clear hagain, Text.replaceAll_append_self (by decide), hrest']

namespace Parts

variable {p : Parts}

theorem Tight.unprotect_marked (hp : p.Tight) (hlow : p.Unmarked) :
    unprotect p.marked = p.text := by
  obtain ⟨before, op, after⟩ := p
  obtain ⟨hbefore, hafter⟩ := hlow
  have hlist := hp.after_of_takesList
  simp only at hbefore hafter hlist
  simp only [marked, text, List.append_assoc]
  cases op with
  | notIn =>
    obtain ⟨tail, rfl⟩ := List.head?_eq_some_iff.mp (hlist (by decide))
    exact unprotect_notInMark hbefore hafter
  | isIn =>
    obtain ⟨tail, rfl⟩ := List.head?_eq_some_iff.mp (hlist (by decide))
    exact unprotect_inMark hbefore hafter
  | _ => exact unprotect_signs hbefore hafter (by decide) (by decide)

theorem Tight.space_not_mem_marked (hp : p.Tight) : ' ' ∉ p.marked := by
  have hmark : ' ' ∉ p.operator.mark := by
    cases p.operator <;> decide
  simp only [marked, List.mem_append, not_or]
  exact ⟨⟨hp.space_not_mem_before, hmark⟩, hp.space_not_mem_after⟩

theorem marked_ne_nil (p : Parts) : p.marked ≠ [] := by
  have hmark : p.operator.mark ≠ [] := by
    cases p.operator <;> decide
  simp [marked, hmark]

/-- A clause without other spaces stays in one piece, whatever word stands before its operator. -/
theorem Tight.split_text (hp : p.Tight) (hlow : p.Unmarked) : split p.text = [p.text] := by
  have hprotect : protect p.text = p.marked := by
    have hnothing := hp.protect_text_append []
    rwa [List.append_nil, protect_eq_self (t := []) (by decide), List.append_nil] at hnothing
  rw [split, hprotect, words_of_unbroken p.marked_ne_nil
    (unbroken_of_not_mem hp.space_not_mem_marked), List.map_singleton, hp.unprotect_marked hlow]

/-- Clauses that are joined by spaces come apart again, each as it was. -/
theorem split_join {parts : List Parts} (hparts : ∀ p ∈ parts, p.Separate)
    (hlow : ∀ p ∈ parts, p.Unmarked)
    (hopen : ∀ p ∈ parts, (Cursor.scan {} p.marked).isOpen) :
    split (Text.join [' '] (parts.map text)) = parts.map text := by
  have hwords : words (Text.join [' '] (parts.map marked)) = parts.map marked := by
    apply words_join
    · intro piece hpiece
      obtain ⟨p, hp, rfl⟩ := List.mem_map.mp hpiece
      exact p.marked_ne_nil
    · intro piece hpiece
      obtain ⟨p, hp, rfl⟩ := List.mem_map.mp hpiece
      exact unbroken_of_not_mem (hparts p hp).tight.space_not_mem_marked
    · intro piece hpiece
      obtain ⟨p, hp, rfl⟩ := List.mem_map.mp (List.dropLast_subset _ hpiece)
      exact hopen p hp
  rw [split, protect_join hparts, hwords, List.map_map]
  apply List.map_congr_left
  intro p hp
  exact (hparts p hp).tight.unprotect_marked (hlow p hp)

end Parts

end Clause

end RecordFilter
