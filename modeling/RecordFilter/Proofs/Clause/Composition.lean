import RecordFilter.Filter.Basic
import RecordFilter.Proofs.Clause.Marks
import RecordFilter.Proofs.Outcome

/-!
Texts of filters that are put together of clauses.

A joint between two clauses is a space outside of quotes and parentheses that no list operator
covers. Marking, splitting and putting the list operators back then act on each side of the joint
for itself, so the clauses of the whole are those of its parts.
-/

namespace RecordFilter

namespace Clause

namespace Cursor

/-- What is open, if anything, is a quotation mark. -/
def IsReached (cursor : Cursor) : Prop :=
  ∀ quote, cursor.quote = some quote → isQuote quote

theorem IsReached.default : IsReached {} :=
  nofun

theorem IsReached.next {cursor : Cursor} (hcursor : cursor.IsReached) (c : Char) :
    (cursor.next c).IsReached := by
  intro quote hquote
  simp only [Cursor.next] at hquote
  split at hquote
  · exact hcursor quote hquote
  · split at hquote
    · exact hcursor quote hquote
    · split at hquote
      next opened hopened =>
        split at hquote
        · cases hquote
        · exact hcursor quote hquote
      next hnone =>
        split at hquote
        next hc =>
          cases hquote
          exact hc
        next =>
          split at hquote
          · rw [hnone] at hquote
            cases hquote
          · split at hquote <;> (rw [hnone] at hquote; cases hquote)

/-- A character that is nothing to heed ends the effect of a backslash and has no other. -/
theorem IsReached.next_of_isPlain {cursor : Cursor} (hcursor : cursor.IsReached) {c : Char}
    (hc : isPlain c) : cursor.next c = { cursor with escaped := false } := by
  obtain ⟨quote, depth, escaped⟩ := cursor
  cases escaped with
  | true => rfl
  | false =>
    cases quote with
    | none => exact Cursor.next_of_isPlain hc
    | some quote =>
      obtain ⟨hsingle, hdouble, hback, _⟩ := isPlain_iff.mp hc
      have hquote : isQuote quote := hcursor quote rfl
      have hne : c ≠ quote := by
        rintro rfl
        simp [isQuote, hsingle, hdouble] at hquote
      simp [Cursor.next, hback, hne]

theorem IsReached.scan_of_isPlain {cursor : Cursor} (hcursor : cursor.IsReached) {text : Text}
    (hne : text ≠ []) (htext : ∀ c ∈ text, isPlain c) :
    cursor.scan text = { cursor with escaped := false } := by
  induction text generalizing cursor with
  | nil => exact absurd rfl hne
  | cons c text ih =>
    have hnext := hcursor.next_of_isPlain (htext c List.mem_cons_self)
    cases text with
    | nil => exact hnext
    | cons d text =>
      rw [scan_cons, ih (hcursor.next c) (List.cons_ne_nil d text)
        fun e he => htext e (List.mem_cons_of_mem c he), hnext]

theorem IsReached.scan {cursor : Cursor} (hcursor : cursor.IsReached) (text : Text) :
    (cursor.scan text).IsReached := by
  induction text generalizing cursor with
  | nil => exact hcursor
  | cons c text ih => exact ih (hcursor.next c)

/-- A scan comes to the same place if plain texts are replaced by plain ones. -/
theorem IsReached.scan_replaceAll {cursor : Cursor} (hcursor : cursor.IsReached) {p r : Text}
    (hp : p ≠ []) (hr : r ≠ []) (hpplain : ∀ c ∈ p, isPlain c) (hrplain : ∀ c ∈ r, isPlain c)
    (t : Text) : cursor.scan (Text.replaceAll p r t) = cursor.scan t := by
  induction t using Text.occurrence_induction hp generalizing cursor with
  | nil => rfl
  | found rest ih =>
    rw [Text.replaceAll_append_self hp, scan_append, scan_append, ih (hcursor.scan r),
      hcursor.scan_of_isPlain hr hrplain, hcursor.scan_of_isPlain hp hpplain]
  | skipped c rest hbegins ih =>
    rw [Text.replaceAll_cons_of_not_isPrefix hbegins, scan_cons, scan_cons, ih (hcursor.next c)]

end Cursor

/-- A clause leaves open what it leaves open with marks for its list operators. -/
theorem scan_protect (t : Text) : Cursor.scan {} (protect t) = Cursor.scan {} t := by
  have hin := Cursor.IsReached.default.scan_replaceAll (p := Operator.isIn.token) (r := inMark)
    (by decide) (by decide) (by decide) (by decide)
  have hnotIn := Cursor.IsReached.default.scan_replaceAll (p := Operator.notIn.token)
    (r := notInMark) (by decide) (by decide) (by decide) (by decide)
  rw [protect, hin, hnotIn]

/-- The words before a space that separates and the words after it. -/
theorem wordsFrom_append_space {cursor : Cursor} {current a b : Text}
    (hopen : (cursor.scan a).isOpen) :
    wordsFrom cursor current (a ++ ' ' :: b) = wordsFrom cursor current a ++ words b := by
  induction a generalizing cursor current with
  | nil =>
    obtain rfl : cursor = {} := Cursor.eq_default_of_isOpen hopen
    rfl
  | cons c a ih =>
    rw [List.cons_append, wordsFrom, wordsFrom]
    by_cases hseparates : cursor.separates c
    · have hhere : cursor.isOpen = true := (Bool.and_eq_true_iff.mp hseparates).2
      have hspace : c = ' ' := of_decide_eq_true (Bool.and_eq_true_iff.mp hseparates).1
      obtain rfl : cursor = {} := Cursor.eq_default_of_isOpen hhere
      subst hspace
      rw [if_pos hseparates, if_pos hseparates, List.append_assoc]
      exact congrArg _ (ih hopen)
    · rw [if_neg hseparates, if_neg hseparates, ih hopen]

/-- No list operator in the text covers the place. -/
def IsJoint (text : Text) (place : Nat) : Prop :=
  ∀ op : Operator, op.takesList → ¬ Text.OccursOver op.token text place

theorem IsJoint.of_append_left {a t : Text} {place : Nat}
    (hjoint : IsJoint (a ++ t) (a.length + place)) : IsJoint t place :=
  fun op hop hover => hjoint op hop (hover.append_left a)

/-- The second marking meets no list operator at a joint that was not there before the first: the
    first mark shares no character with what the second looks for. -/
theorem apart_replaceAll_notIn {a b : Text} (hapart : Text.Apart Operator.isIn.token a (' ' :: b)) :
    Text.Apart Operator.isIn.token (Text.replaceAll Operator.notIn.token notInMark a)
      (Text.replaceAll Operator.notIn.token notInMark (' ' :: b)) := by
  have hdisjoint : ∀ c ∈ Operator.isIn.token, c ∉ notInMark := by decide
  intro s hends hbegins
  rcases List.prefix_or_prefix_of_prefix hbegins (List.prefix_append s _) with h | ⟨u, hu⟩
  · exact h
  · have hs : s <:+ a :=
      Text.isSuffix_of_isSuffix_replaceAll (by decide) (by decide)
        (fun c hc => hdisjoint c (hu ▸ List.mem_append_left u hc)) hends
    have hrest : u <+: ' ' :: b := by
      rw [← hu, List.prefix_append_right_inj] at hbegins
      exact Text.isPrefix_of_isPrefix_replaceAll (by decide) (by decide)
        (fun c hc => hdisjoint c (hu ▸ List.mem_append_right s hc)) hbegins
    apply hapart s hs
    rw [← hu, List.prefix_append_right_inj]
    exact hrest

theorem protect_append_space {a b : Text} (hjoint : IsJoint (a ++ ' ' :: b) a.length) :
    protect (a ++ ' ' :: b) = protect a ++ ' ' :: protect b := by
  have hnotIn : Text.Apart Operator.notIn.token a (' ' :: b) :=
    Text.apart_of_not_occursOver (hjoint .notIn (by decide))
  have hin : Text.Apart Operator.isIn.token a (' ' :: b) :=
    Text.apart_of_not_occursOver (hjoint .isIn (by decide))
  have hspace : protect (' ' :: b) = ' ' :: protect b := by
    have hfirst : ¬ Operator.notIn.token <+: ' ' :: b :=
      fun h => absurd (hnotIn [] List.nil_suffix h) (by decide)
    have hreplaced := Text.replaceAll_cons_of_not_isPrefix (r := notInMark) hfirst
    have hsecond : ¬ Operator.isIn.token <+:
        ' ' :: Text.replaceAll Operator.notIn.token notInMark b := by
      intro h
      have hempty := apart_replaceAll_notIn hin [] List.nil_suffix
      rw [List.nil_append, hreplaced] at hempty
      exact absurd (hempty h) (by decide)
    rw [protect, hreplaced, Text.replaceAll_cons_of_not_isPrefix hsecond, protect]
  rw [← hspace, protect, Text.replaceAll_append_of_apart (by decide) hnotIn,
    Text.replaceAll_append_of_apart (by decide) (apart_replaceAll_notIn hin), protect, protect]

/-- A text is split at a joint outside of quotes and parentheses, and each side for itself. -/
theorem split_append_space {a b : Text} (hjoint : IsJoint (a ++ ' ' :: b) a.length)
    (hopen : (Cursor.scan {} a).isOpen) : split (a ++ ' ' :: b) = split a ++ split b := by
  rw [← scan_protect] at hopen
  rw [split, protect_append_space hjoint, words, wordsFrom_append_space hopen, List.map_append]
  rfl

/-- Clauses that are joined by spaces come apart again, each as it was. -/
theorem split_join_of_isJoint {clauses : List Text}
    (hclauses : ∀ clause ∈ clauses, split clause = [clause])
    (hopen : ∀ clause ∈ clauses.dropLast, (Cursor.scan {} clause).isOpen)
    (hjoint : ∀ n, 0 < n → n < clauses.length →
      IsJoint (Text.join [' '] clauses) (Text.join [' '] (clauses.take n)).length) :
    split (Text.join [' '] clauses) = clauses := by
  induction clauses with
  | nil => rfl
  | cons clause clauses ih =>
    have hfirst := hclauses clause List.mem_cons_self
    cases clauses with
    | nil => exact hfirst
    | cons next clauses =>
      have hjoined : Text.join [' '] (clause :: next :: clauses) =
          clause ++ ' ' :: Text.join [' '] (next :: clauses) := by
        rw [Text.join_cons_cons, List.append_assoc, List.singleton_append]
      rw [hjoined] at hjoint ⊢
      have hrest : split (Text.join [' '] (next :: clauses)) = next :: clauses := by
        apply ih
        · exact fun c hc => hclauses c (List.mem_cons_of_mem _ hc)
        · exact fun c hc => hopen c (List.mem_cons_of_mem _ hc)
        · intro n hpos hn
          obtain ⟨n, rfl⟩ := Nat.exists_eq_succ_of_ne_zero hpos.ne'
          have hthere := hjoint (n + 2) (by omega) (by simpa using hn)
          apply IsJoint.of_append_left (a := clause ++ [' '])
          rw [← List.length_append, List.append_assoc, List.append_assoc]
          simpa [Text.join_cons_cons] using hthere
      have hhere := hjoint 1 Nat.one_pos (by simp)
      rw [split_append_space hhere (hopen clause List.mem_cons_self), hfirst, hrest]
      rfl

end Clause

namespace Filter

variable {aliases : AliasTable}

theorem parse_eq_ok_iff_of_split_eq {clause logic : Text} {name description : Option Text}
    (hclause : Clause.split clause = [clause]) {f : Filter} :
    parse aliases clause logic name description = .ok f ↔
      ∃ e, Clause.read aliases clause = .ok e ∧ f = ⟨[e], logic, name, description⟩ := by
  rw [parse, map_eq_ok_iff, Clause.readAll, hclause]
  simp only [mapM_eq_ok_iff, List.forall₂_cons_left_iff, List.forall₂_nil_left_iff]
  constructor
  · rintro ⟨_, ⟨e, _, hread, rfl, rfl⟩, rfl⟩
    exact ⟨e, hread, rfl⟩
  · rintro ⟨e, hread, rfl⟩
    exact ⟨[e], ⟨e, [], hread, rfl, rfl⟩, rfl⟩

/-- Clauses that are read one by one are filters of one expression each. -/
theorem forall₂_read_iff {clauses : List Text}
    (hclauses : ∀ clause ∈ clauses, Clause.split clause = [clause]) (logic : Text)
    (name description : Option Text) {expressions : List Expression} :
    List.Forall₂ (fun clause e => Clause.read aliases clause = .ok e) clauses expressions ↔
      ∃ parts, List.Forall₂ (fun clause part =>
          parse aliases clause logic name description = .ok part) clauses parts ∧
        expressions = parts.flatMap Filter.expressions := by
  induction clauses generalizing expressions with
  | nil => simp
  | cons clause clauses ih =>
    have hfirst := hclauses clause List.mem_cons_self
    have hrest := @ih fun c hc => hclauses c (List.mem_cons_of_mem _ hc)
    constructor
    · intro hread
      obtain ⟨e, others, he, hothers, rfl⟩ := List.forall₂_cons_left_iff.mp hread
      obtain ⟨parts, hparts, rfl⟩ := hrest.mp hothers
      have hpart : parse aliases clause logic name description =
          .ok ⟨[e], logic, name, description⟩ :=
        (parse_eq_ok_iff_of_split_eq hfirst).mpr ⟨e, he, rfl⟩
      exact ⟨_, .cons hpart hparts, rfl⟩
    · rintro ⟨_, hparse, rfl⟩
      obtain ⟨part, parts, hpart, hparts, rfl⟩ := List.forall₂_cons_left_iff.mp hparse
      obtain ⟨e, he, rfl⟩ := (parse_eq_ok_iff_of_split_eq hfirst).mp hpart
      exact .cons he (hrest.mpr ⟨parts, hparts, rfl⟩)

/-- Clauses can be joined if each of them is one clause, all but the last leave no quote, no
    parenthesis and no backslash open, and no list operator of the joined text covers a joint. The
    joined text then has just these clauses, so it is read if and only if each of them is, and its
    expressions are theirs. -/
theorem parse_join_of_clauses (clauses : List Text)
    (hclauses : ∀ clause ∈ clauses, Clause.split clause = [clause])
    (hopen : ∀ clause ∈ clauses.dropLast, (Clause.Cursor.scan {} clause).isOpen)
    (hjoint : ∀ n, 0 < n → n < clauses.length →
      Clause.IsJoint (Text.join [' '] clauses) (Text.join [' '] (clauses.take n)).length) :
    Clause.split (Text.join [' '] clauses) = clauses ∧
      ∀ (aliases : AliasTable) (logic : Text) (name description : Option Text) (f : Filter),
        parse aliases (Text.join [' '] clauses) logic name description = .ok f ↔
          ∃ parts, List.Forall₂ (fun clause part =>
              parse aliases clause logic name description = .ok part) clauses parts ∧
            f = ⟨parts.flatMap Filter.expressions, logic, name, description⟩ := by
  have hsplit := Clause.split_join_of_isJoint hclauses hopen hjoint
  refine ⟨hsplit, fun aliases logic name description f => ?_⟩
  rw [parse, map_eq_ok_iff, Clause.readAll, hsplit]
  simp only [mapM_eq_ok_iff, forall₂_read_iff hclauses logic name description]
  constructor
  · rintro ⟨_, ⟨parts, hparts, rfl⟩, rfl⟩
    exact ⟨parts, hparts, rfl⟩
  · rintro ⟨parts, hparts, rfl⟩
    exact ⟨_, ⟨parts, hparts, rfl⟩, rfl⟩

/-- The text `partition not in (a, b) name='x y' cpus>4`, of which the second clause has a space
    and the first one a list operator. -/
theorem parse_join_of_three_clauses :
    let clauses := ["partition not in (a, b)", "name='x y'", "cpus>4"].map String.toList
    (∀ clause ∈ clauses, Clause.split clause = [clause]) ∧
      (∀ clause ∈ clauses.dropLast, (Clause.Cursor.scan {} clause).isOpen) ∧
      (∀ n, 0 < n → n < clauses.length →
        Clause.IsJoint (Text.join [' '] clauses) (Text.join [' '] (clauses.take n)).length) ∧
      Clause.split (Text.join [' '] clauses) = clauses := by
  intro clauses
  have hclauses : ∀ clause ∈ clauses, Clause.split clause = [clause] := by decide
  have hopen : ∀ clause ∈ clauses.dropLast, (Clause.Cursor.scan {} clause).isOpen := by decide
  have hjoint : ∀ n, 0 < n → n < clauses.length →
      Clause.IsJoint (Text.join [' '] clauses) (Text.join [' '] (clauses.take n)).length := by
    have hplaces : ∀ n < clauses.length, 0 < n → ∀ op ∈ Operator.all, op.takesList →
        ¬ Text.OccursOver op.token (Text.join [' '] clauses)
          (Text.join [' '] (clauses.take n)).length := by
      decide
    exact fun n hpos hn op => hplaces n hn hpos op (Operator.mem_all op)
  exact ⟨hclauses, hopen, hjoint, (parse_join_of_clauses clauses hclauses hopen hjoint).1⟩

end Filter

end RecordFilter
