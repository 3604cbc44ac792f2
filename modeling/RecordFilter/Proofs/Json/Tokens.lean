import Mathlib.Data.List.Find
import RecordFilter.Json.Reader
import RecordFilter.Proofs.Number.Digits
import RecordFilter.Proofs.Outcome
import RecordFilter.Proofs.Text.Search

/-!
Words, numbers and texts in JSON: what is read of them is the beginning of a text, and what follows
behind a character that none of them has in it is left as it is. So is white space behind a text.
-/

namespace RecordFilter.Json

open Numeral

/-- The text is white space. -/
def Gaps (g : Text) : Prop :=
  ∀ c ∈ g, isGap c

/-- A reading with some text added to its rest. -/
def withRest {α : Type} (g : Text) (reading : Except JsonError (α × Text)) :
    Except JsonError (α × Text) :=
  reading.map fun (a, rest) => (a, rest ++ g)

/-- What is so of each of the four characters of white space is so of white space. -/
theorem of_isGap {p : Char → Prop} (hall : ∀ c ∈ [' ', '\t', '\n', '\r'], p c) {c : Char}
    (hc : isGap c) : p c := by
  refine hall c ?_
  simpa only [isGap, Bool.or_eq_true, decide_eq_true_eq, or_assoc, List.mem_cons,
    List.not_mem_nil, or_false] using hc

theorem Gaps.head?_ne {g : Text} (hg : Gaps g) {c : Char} (hc : ¬ isGap c) : g.head? ≠ some c :=
  fun h => hc (hg c (List.mem_of_mem_head? h))

/-- A character that is no part of a number, of a word, or of what stands for another character in a
    text. -/
structure IsSeparator (c : Char) : Prop where
  hexValue : hexValue? c = none
  escaped : escaped? c = none
  sign : c ∉ ['+', '-', '.', 'u']
  word : ∀ w ∈ words.map Prod.fst, c ∉ w

instance (c : Char) : Decidable (IsSeparator c) :=
  decidable_of_iff (hexValue? c = none ∧ escaped? c = none ∧ c ∉ ['+', '-', '.', 'u'] ∧
    ∀ w ∈ words.map Prod.fst, c ∉ w)
    ⟨fun ⟨hhex, hescaped, hsign, hword⟩ => ⟨hhex, hescaped, hsign, hword⟩,
      fun ⟨hhex, hescaped, hsign, hword⟩ => ⟨hhex, hescaped, hsign, hword⟩⟩

theorem IsSeparator.not_isPlainDigit {c : Char} (hc : IsSeparator c) : ¬ Text.isPlainDigit c := by
  intro hdigit
  have hhex := hc.hexValue
  rw [hexValue?, if_pos hdigit] at hhex
  cases hhex

/-- The text does not begin with what could continue a number, a word or an escape. -/
def Separates (g : Text) : Prop :=
  ∀ c, g.head? = some c → IsSeparator c

theorem Separates.head?_ne {g : Text} (hg : Separates g) {c : Char} (hc : ¬ IsSeparator c) :
    g.head? ≠ some c :=
  fun h => hc (hg c h)

theorem isSeparator_of_isGap {c : Char} (hc : isGap c) : IsSeparator c :=
  of_isGap (by decide) hc

theorem Gaps.separates {g : Text} (hg : Gaps g) : Separates g :=
  fun c hc => isSeparator_of_isGap (hg c (List.mem_of_mem_head? hc))

variable {u g : Text}

theorem head?_takeDigits (u : Text) (c : Char) (hc : (takeDigits u).2.head? = some c) :
    ¬ Text.isPlainDigit c := by
  rw [takeDigits, List.span_eq_takeWhile_dropWhile] at hc
  have hfirst := List.head?_dropWhile_not Text.isPlainDigit u
  rw [hc] at hfirst
  simpa using hfirst

theorem takeDigits_append_of_separates (u : Text) (hg : Separates g) :
    takeDigits (u ++ g) = ((takeDigits u).1, (takeDigits u).2 ++ g) := by
  have hend : ∀ c, ((takeDigits u).2 ++ g).head? = some c → ¬ Text.isPlainDigit c := by
    intro c hc
    cases hrest : (takeDigits u).2 with
    | nil =>
      rw [hrest, List.nil_append] at hc
      exact (hg c hc).not_isPlainDigit
    | cons d rest =>
      rw [hrest, List.cons_append] at hc
      exact head?_takeDigits u c (by rw [hrest]; exact hc)
  have htake := takeDigits_append (t := (takeDigits u).1) isPlainDigit_of_mem_takeDigits hend
  rwa [← List.append_assoc, ← eq_append_takeDigits] at htake

theorem readWhole?_cons_of_ne {c : Char} (hc : c ≠ '0') (t : Text) :
    readWhole? (c :: t) =
      if (takeDigits (c :: t)).1.isEmpty then none else some (takeDigits (c :: t)) := by
  unfold readWhole?
  split
  · rename_i heq
    exact absurd (List.cons.inj heq).1 hc
  · rfl

theorem readWhole?_append_of_separates (u : Text) (hg : Separates g) :
    readWhole? (u ++ g) = (readWhole? u).map fun (whole, rest) => (whole, rest ++ g) := by
  have hdigits : ∀ u : Text, (if (takeDigits (u ++ g)).1.isEmpty then none
      else some (takeDigits (u ++ g))) =
        (if (takeDigits u).1.isEmpty then none else some (takeDigits u)).map
          fun (whole, rest) => (whole, rest ++ g) := by
    intro u
    rw [takeDigits_append_of_separates u hg]
    split <;> rfl
  cases u with
  | nil =>
    cases g with
    | nil => rfl
    | cons c g =>
      have hc : c ≠ '0' := fun h => hg.head?_ne (c := '0') (by decide) (congrArg some h)
      rw [List.nil_append, readWhole?_cons_of_ne hc]
      exact hdigits []
  | cons c u =>
    by_cases hc : c = '0'
    · subst hc
      rfl
    · rw [List.cons_append, readWhole?_cons_of_ne hc, readWhole?_cons_of_ne hc]
      exact hdigits (c :: u)

theorem readFraction_of_ne {t : Text} (ht : t.head? ≠ some '.') : readFraction t = ([], t) := by
  unfold readFraction
  split
  · exact absurd rfl ht
  · rfl

theorem readFraction_append_of_separates (u : Text) (hg : Separates g) :
    readFraction (u ++ g) = ((readFraction u).1, (readFraction u).2 ++ g) := by
  cases u with
  | nil =>
    exact readFraction_of_ne (hg.head?_ne (by decide))
  | cons c u =>
    by_cases hc : c = '.'
    · subst hc
      simp only [List.cons_append, readFraction, takeDigits_append_of_separates u hg]
      split <;> rfl
    · have hhead : ∀ t : Text, (c :: t).head? ≠ some '.' := fun t h => hc (Option.some.inj h)
      rw [List.cons_append, readFraction_of_ne (hhead _), readFraction_of_ne (hhead _)]
      rfl

theorem takeSign_append_of_separates (u : Text) (hg : Separates g) :
    takeSign (u ++ g) = ((takeSign u).1, (takeSign u).2 ++ g) := by
  have hsign : ∀ {t : Text}, t.head? ≠ some '+' → t.head? ≠ some '-' → takeSign t = (false, t) := by
    intro t hplus hminus
    unfold takeSign
    split
    · exact absurd rfl hplus
    · exact absurd rfl hminus
    · rfl
  cases u with
  | nil =>
    exact hsign (hg.head?_ne (by decide)) (hg.head?_ne (by decide))
  | cons c u =>
    by_cases hplus : c = '+'
    · subst hplus
      rfl
    · by_cases hminus : c = '-'
      · subst hminus
        rfl
      · rw [List.cons_append, hsign (by simpa using hplus) (by simpa using hminus),
          hsign (by simpa using hplus) (by simpa using hminus)]
        rfl

theorem readPower_append_of_separates (u : Text) (hg : Separates g) :
    readPower (u ++ g) = ((readPower u).1, (readPower u).2 ++ g) := by
  cases u with
  | nil =>
    cases g with
    | nil => rfl
    | cons c g =>
      have hc : ¬ (c = 'e' ∨ c = 'E') := by
        rintro (rfl | rfl)
        · exact hg.head?_ne (c := 'e') (by decide) rfl
        · exact hg.head?_ne (c := 'E') (by decide) rfl
      simp only [List.nil_append, readPower, if_neg hc]
  | cons c u =>
    by_cases hc : c = 'e' ∨ c = 'E'
    · simp only [List.cons_append, readPower, if_pos hc, takeSign_append_of_separates u hg,
        takeDigits_append_of_separates _ hg]
      split <;> rfl
    · simp only [List.cons_append, readPower, if_neg hc]

theorem readUnsigned_append_of_separates (negative : Bool) (u : Text) (hg : Separates g) :
    readUnsigned negative (u ++ g) = withRest g (readUnsigned negative u) := by
  rw [readUnsigned, readWhole?_append_of_separates u hg, readUnsigned]
  cases readWhole? u with
  | none => rfl
  | some found =>
    obtain ⟨whole, rest⟩ := found
    simp only [Option.map_some, readFraction_append_of_separates rest hg, readPower_append_of_separates _ hg]
    split
    · split <;> rfl
    · rfl

/-- A number, with a sign if it is negative. -/
def readNumber (t : Text) : Except JsonError (Value × Text) :=
  match t with
  | '-' :: rest => readUnsigned true rest
  | _ => readUnsigned false t

theorem readNumber_of_ne {t : Text} (ht : t.head? ≠ some '-') :
    readNumber t = readUnsigned false t := by
  unfold readNumber
  split
  · exact absurd rfl ht
  · rfl

theorem readNumber_append_of_separates (u : Text) (hg : Separates g) :
    readNumber (u ++ g) = withRest g (readNumber u) := by
  cases u with
  | nil =>
    rw [List.nil_append, readNumber_of_ne (hg.head?_ne (by decide))]
    exact readUnsigned_append_of_separates false [] hg
  | cons c u =>
    by_cases hc : c = '-'
    · subst hc
      exact readUnsigned_append_of_separates true u hg
    · have hhead : ∀ t : Text, (c :: t).head? ≠ some '-' := fun t h => hc (Option.some.inj h)
      rw [List.cons_append, readNumber_of_ne (hhead _), readNumber_of_ne (hhead _)]
      exact readUnsigned_append_of_separates false (c :: u) hg

theorem readPlain_eq (t : Text) :
    readPlain t =
      match words.find? (·.1.isPrefixOf t) with
      | some (word, value) => .ok (value, t.drop word.length)
      | none => readNumber t :=
  rfl

theorem isPrefixOf_append_of_separates {w : Text} (hw : ∀ c ∈ w, ¬ IsSeparator c) (u : Text)
    (hg : Separates g) : w.isPrefixOf (u ++ g) = w.isPrefixOf u := by
  rw [Bool.eq_iff_iff, List.isPrefixOf_iff_prefix, List.isPrefixOf_iff_prefix]
  constructor
  · intro hbegins
    rcases List.prefix_or_prefix_of_prefix hbegins (List.prefix_append u g) with h | ⟨tail, rfl⟩
    · exact h
    · rw [List.prefix_append_right_inj] at hbegins
      cases tail with
      | nil => exact (List.append_nil u).symm ▸ List.prefix_refl u
      | cons c tail =>
        obtain ⟨after, rfl⟩ := hbegins
        exact absurd (hg c rfl) (hw c (List.mem_append_right u List.mem_cons_self))
  · exact fun hbegins => hbegins.trans (List.prefix_append u g)

theorem not_isSeparator_of_mem_words {word : Text × Value} (hword : word ∈ words) :
    ∀ c ∈ word.1, ¬ IsSeparator c :=
  fun _ hc hseparator => hseparator.word word.1 (List.mem_map_of_mem hword) hc

theorem readPlain_append_of_separates (u : Text) (hg : Separates g) :
    readPlain (u ++ g) = withRest g (readPlain u) := by
  have hfind : words.find? (·.1.isPrefixOf (u ++ g)) = words.find? (·.1.isPrefixOf u) := by
    apply List.find?_congr
    intro word hword
    rw [isPrefixOf_append_of_separates (not_isSeparator_of_mem_words hword) u hg]
  rw [readPlain_eq, hfind, readPlain_eq]
  cases hword : words.find? (·.1.isPrefixOf u) with
  | some word =>
    obtain ⟨w, v⟩ := word
    have hfound : w.isPrefixOf u = true :=
      List.find?_some (p := fun word : Text × Value => word.1.isPrefixOf u) hword
    have hlength := (List.isPrefixOf_iff_prefix.mp hfound).length_le
    dsimp only
    rw [List.drop_append_of_le_length hlength]
    rfl
  | none => exact readNumber_append_of_separates u hg

/-- No number and no word begins with a character of another kind. -/
theorem readPlain_cons_eq_error {c : Char} {t : Text} (hwords : ∀ w ∈ words, w.1.head? ≠ some c)
    (hsign : c ≠ '-') (hdigit : ¬ Text.isPlainDigit c) :
    readPlain (c :: t) = .error .malformed := by
  have hfind : words.find? (·.1.isPrefixOf (c :: t)) = none := by
    rw [List.find?_eq_none]
    intro w hw hbegins
    have hne : w.1 ≠ [] := by
      have hall : ∀ w ∈ words.map Prod.fst, w ≠ [] := by decide
      exact hall w.1 (List.mem_map_of_mem hw)
    obtain ⟨d, tail, hcons⟩ := List.exists_cons_of_ne_nil hne
    rw [hcons, List.isPrefixOf_iff_prefix, List.cons_prefix_cons] at hbegins
    exact hwords w hw (by rw [hcons, hbegins.1]; rfl)
  have hzero : c ≠ '0' := by
    rintro rfl
    exact hdigit (by decide)
  have hdigits : takeDigits (c :: t) = ([], c :: t) :=
    takeDigits_append (t := []) nofun fun d hd => Option.some.inj hd ▸ hdigit
  have hnumber : readNumber (c :: t) = readUnsigned false (c :: t) :=
    readNumber_of_ne fun h => hsign (Option.some.inj h)
  rw [readPlain_eq, hfind]
  dsimp only
  rw [hnumber, readUnsigned, readWhole?_cons_of_ne hzero, hdigits]
  rfl

theorem head?_ne_of_readPlain {t rest : Text} {v : Value} (hread : readPlain t = .ok (v, rest))
    {c : Char} (hwords : ∀ w ∈ words, w.1.head? ≠ some c) (hsign : c ≠ '-')
    (hdigit : ¬ Text.isPlainDigit c) : t.head? ≠ some c := by
  intro hhead
  obtain ⟨t, rfl⟩ := List.head?_eq_some_iff.mp hhead
  rw [readPlain_cons_eq_error hwords hsign hdigit] at hread
  cases hread

theorem isPlainDigit_of_readWhole? {t whole rest : Text}
    (hread : readWhole? t = some (whole, rest)) : ∀ c ∈ whole, Text.isPlainDigit c := by
  unfold readWhole? at hread
  split at hread
  · obtain ⟨rfl, rfl⟩ := Prod.mk.inj (Option.some.inj hread)
    exact (by decide : ∀ c ∈ ['0'], Text.isPlainDigit c)
  · dsimp only at hread
    split at hread
    · cases hread
    · obtain ⟨rfl, rfl⟩ := Prod.mk.inj (Option.some.inj hread)
      exact isPlainDigit_of_mem_takeDigits

/-- What words and numbers stand for. -/
inductive IsPlain : Value → Prop
  | null : IsPlain .null
  | boolean (b : Bool) : IsPlain (.boolean b)
  | integer {i : Int} (hi : i.natAbs < 10 ^ digitLimit) : IsPlain (.integer i)
  | float (x : Binary64) : IsPlain (.float x)

theorem isPlain_of_readUnsigned {negative : Bool} {t rest : Text} {v : Value}
    (hread : readUnsigned negative t = .ok (v, rest)) : IsPlain v := by
  unfold readUnsigned at hread
  split at hread
  · cases hread
  · rename_i whole after hwhole
    dsimp only at hread
    split at hread
    · split at hread
      · cases hread
      · rename_i hlength
        cases hread
        refine .integer ?_
        have hdigits := Text.ofDigits_lt (isPlainDigit_of_readWhole? hwhole)
        have hpower := Nat.pow_le_pow_right (n := 10) (by decide) (Nat.le_of_not_lt hlength)
        have habs : (IntegerForm.value ⟨negative, whole⟩).natAbs = Text.ofDigits whole := by
          simp only [IntegerForm.value]
          split <;> omega
        rw [habs]
        exact hdigits.trans_le hpower
    · cases hread
      exact .float _

theorem isPlain_of_readPlain {t rest : Text} {v : Value} (hread : readPlain t = .ok (v, rest)) :
    IsPlain v := by
  rw [readPlain_eq] at hread
  split at hread
  · rename_i word value hfind
    cases hread
    have hmem : v ∈ words.map Prod.snd := List.mem_map_of_mem (List.mem_of_find?_eq_some hfind)
    simp only [words, List.map_cons, List.map_nil, List.mem_cons, List.not_mem_nil, or_false]
      at hmem
    rcases hmem with rfl | rfl | rfl | rfl | rfl | rfl
    · exact .null
    · exact .boolean true
    · exact .boolean false
    · exact .float _
    · exact .float _
    · exact .float _
  · unfold readNumber at hread
    split at hread
    · exact isPlain_of_readUnsigned hread
    · exact isPlain_of_readUnsigned hread

theorem readCode_append_of_separates (u : Text) (hg : Separates g) :
    readCode (u ++ g) = withRest g (readCode u) := by
  have hshort : ∀ a b c d : Char, ∀ rest, (∃ x ∈ [a, b, c, d], IsSeparator x) →
      readCode (a :: b :: c :: d :: rest) = .error .malformed := by
    rintro a b c d rest ⟨x, hx, hseparator⟩
    have hnone := hseparator.hexValue
    simp only [List.mem_cons, List.not_mem_nil, or_false] at hx
    rcases hx with rfl | rfl | rfl | rfl <;> simp [readCode, hnone]
  match u with
  | a :: b :: c :: d :: rest =>
    simp only [List.cons_append, readCode]
    split <;> rfl
  | [] =>
    rcases g with _ | ⟨x, _ | ⟨y, _ | ⟨z, _ | ⟨w, g⟩⟩⟩⟩
    case cons.cons.cons.cons => exact hshort x y z w g ⟨x, by simp, hg x rfl⟩
    all_goals rfl
  | [a] =>
    rcases g with _ | ⟨x, _ | ⟨y, _ | ⟨z, g⟩⟩⟩
    case cons.cons.cons => exact hshort a x y z g ⟨x, by simp, hg x rfl⟩
    all_goals rfl
  | [a, b] =>
    rcases g with _ | ⟨x, _ | ⟨y, g⟩⟩
    case cons.cons => exact hshort a b x y g ⟨x, by simp, hg x rfl⟩
    all_goals rfl
  | [a, b, c] =>
    rcases g with _ | ⟨x, g⟩
    case cons => exact hshort a b c x g ⟨x, by simp, hg x rfl⟩
    all_goals rfl

/-- The character of a code that has been read, together with a second code if one belongs to it. -/
def charAt (high : Nat) (rest : Text) : Except JsonError (Char × Text) :=
  match rest with
  | '\\' :: 'u' :: after =>
    if 0xD800 ≤ high ∧ high < 0xDC00 then do
      let (low, beyond) ← readCode after
      if 0xDC00 ≤ low ∧ low < 0xE000 then
        return (charOf (0x10000 + (high - 0xD800) * 0x400 + (low - 0xDC00)), beyond)
      else return (charOf high, rest)
    else return (charOf high, rest)
  | _ => return (charOf high, rest)

theorem readUnicode_eq (t : Text) :
    readUnicode t = readCode t >>= fun (high, rest) => charAt high rest :=
  rfl

theorem charAt_escape (high : Nat) (after : Text) :
    charAt high (['\\', 'u'] ++ after) =
      if 0xD800 ≤ high ∧ high < 0xDC00 then readCode after >>= fun (low, beyond) =>
        if 0xDC00 ≤ low ∧ low < 0xE000 then
          .ok (charOf (0x10000 + (high - 0xD800) * 0x400 + (low - 0xDC00)), beyond)
        else .ok (charOf high, ['\\', 'u'] ++ after)
      else .ok (charOf high, ['\\', 'u'] ++ after) :=
  rfl

theorem charAt_of_not_isPrefix {rest : Text} (hrest : ¬ ['\\', 'u'] <+: rest) (high : Nat) :
    charAt high rest = .ok (charOf high, rest) := by
  unfold charAt
  split
  · exact absurd (List.prefix_append ['\\', 'u'] _) hrest
  · rfl

theorem charAt_append_of_separates (high : Nat) (u : Text) (hg : Separates g) :
    charAt high (u ++ g) = withRest g (charAt high u) := by
  have hprefix : ['\\', 'u'] <+: u ++ g ↔ ['\\', 'u'] <+: u := by
    rw [← List.isPrefixOf_iff_prefix, isPrefixOf_append_of_separates (by decide) u hg,
      List.isPrefixOf_iff_prefix]
  by_cases hescape : ['\\', 'u'] <+: u
  · obtain ⟨after, rfl⟩ := hescape
    rw [List.append_assoc, charAt_escape, charAt_escape, readCode_append_of_separates after hg]
    split
    · cases readCode after with
      | error e => rfl
      | ok found =>
        change ite _ _ _ = withRest g (ite _ _ _)
        split <;> rfl
    · rfl
  · rw [charAt_of_not_isPrefix hescape, charAt_of_not_isPrefix (mt hprefix.mp hescape)]
    rfl

theorem readUnicode_append_of_separates (u : Text) (hg : Separates g) :
    readUnicode (u ++ g) = withRest g (readUnicode u) := by
  rw [readUnicode_eq, readCode_append_of_separates u hg, readUnicode_eq]
  cases readCode u with
  | error e => rfl
  | ok found => exact charAt_append_of_separates found.1 found.2 hg

/-- What follows a backslash in a text. -/
def readEscape (fuel : Nat) (read : Text) (rest : Text) : Except JsonError (Text × Text) :=
  match rest with
  | 'u' :: rest => do
    let (c, rest) ← readUnicode rest
    readText fuel (c :: read) rest
  | e :: rest =>
    match escaped? e with
    | some c => readText fuel (c :: read) rest
    | none => .error .malformed
  | [] => .error .malformed

theorem readText_succ_cons (fuel : Nat) (read : Text) (c : Char) (t : Text) :
    readText (fuel + 1) read (c :: t) =
      if c = '"' then .ok (read.reverse, t)
      else if c.toNat < 32 then .error .malformed
      else if c = '\\' then readEscape fuel read t
      else readText fuel (c :: read) t :=
  rfl

theorem readEscape_cons_of_ne {fuel : Nat} {read t : Text} {e : Char} (he : e ≠ 'u') :
    readEscape fuel read (e :: t) =
      match escaped? e with
      | some c => readText fuel (c :: read) t
      | none => .error .malformed := by
  unfold readEscape
  split
  · rename_i heq
    exact absurd (List.cons.inj heq).1 he
  · rename_i heq
    obtain ⟨rfl, rfl⟩ := List.cons.inj heq
    rfl
  · cases ‹_ :: _ = []›

/-- White space does not end a text. -/
theorem readText_gaps (fuel : Nat) (read : Text) (hg : Gaps g) :
    readText fuel read g = .error .malformed := by
  induction fuel generalizing read g with
  | zero => rfl
  | succ fuel ih =>
    cases g with
    | nil => rfl
    | cons c g =>
      have hquote : c ≠ '"' := fun h => hg.head?_ne (c := '"') (by decide) (congrArg some h)
      have hback : c ≠ '\\' := fun h => hg.head?_ne (c := '\\') (by decide) (congrArg some h)
      rw [readText_succ_cons, if_neg hquote, if_neg hback,
        ih (c :: read) fun d hd => hg d (List.mem_cons_of_mem c hd), ite_self]

theorem readText_append_gaps (fuel : Nat) (read u : Text) (hg : Gaps g) :
    readText fuel read (u ++ g) = withRest g (readText fuel read u) := by
  induction fuel generalizing read u with
  | zero => rfl
  | succ fuel ih =>
    cases u with
    | nil => exact readText_gaps (fuel + 1) read hg
    | cons c u =>
      have hescape : readEscape fuel read (u ++ g) = withRest g (readEscape fuel read u) := by
        cases u with
        | nil =>
          cases g with
          | nil => rfl
          | cons x g =>
            have hx : x ≠ 'u' := fun h => hg.head?_ne (c := 'u') (by decide) (congrArg some h)
            rw [List.nil_append, readEscape_cons_of_ne hx,
              (hg.separates x rfl).escaped]
            rfl
        | cons e u =>
          by_cases he : e = 'u'
          · subst he
            change (readUnicode (u ++ g) >>= _) = withRest g (readUnicode u >>= _)
            rw [readUnicode_append_of_separates u hg.separates]
            cases readUnicode u with
            | error e => rfl
            | ok found => exact ih (found.1 :: read) found.2
          · rw [List.cons_append, readEscape_cons_of_ne he, readEscape_cons_of_ne he]
            cases escaped? e with
            | none => rfl
            | some c => exact ih (c :: read) u
      rw [List.cons_append, readText_succ_cons, readText_succ_cons, hescape, ih]
      split
      · rfl
      · split
        · rfl
        · split <;> rfl

/-- The rest is what is left of the text when something has been taken off its beginning. -/
structure Shortens (t rest : Text) : Prop where
  isSuffix : rest <:+ t
  length_lt : rest.length < t.length

theorem shortens_cons (c : Char) (t : Text) : Shortens (c :: t) t :=
  ⟨List.suffix_cons c t, by simp⟩

theorem Shortens.trans_isSuffix {t middle rest : Text} (ht : Shortens t middle)
    (hrest : rest <:+ middle) : Shortens t rest :=
  ⟨hrest.trans ht.isSuffix, hrest.length_le.trans_lt ht.length_lt⟩

theorem shortens_of_isSuffix {t middle rest : Text} (ht : middle <:+ t)
    (hrest : Shortens middle rest) : Shortens t rest :=
  ⟨hrest.isSuffix.trans ht, hrest.length_lt.trans_le ht.length_le⟩

theorem shortens_readWhole? {t whole rest : Text} (hread : readWhole? t = some (whole, rest)) :
    Shortens t rest := by
  unfold readWhole? at hread
  split at hread
  · cases hread
    exact shortens_cons _ _
  · dsimp only at hread
    split at hread
    · cases hread
    · rename_i hne
      obtain ⟨rfl, rfl⟩ := Prod.mk.inj (Option.some.inj hread)
      refine ⟨isSuffix_takeDigits t, ?_⟩
      have hpos : 0 < (takeDigits t).1.length := List.length_pos_iff.mpr (by simpa using hne)
      have hlength := congrArg List.length (eq_append_takeDigits t)
      rw [List.length_append] at hlength
      omega

theorem isSuffix_readFraction (t : Text) : (readFraction t).2 <:+ t := by
  unfold readFraction
  split
  · dsimp only
    split
    · exact List.suffix_refl _
    · exact (isSuffix_takeDigits _).trans (List.suffix_cons _ _)
  · exact List.suffix_refl _

theorem isSuffix_readPower (t : Text) : (readPower t).2 <:+ t := by
  unfold readPower
  split
  · split
    · dsimp only
      split
      · exact List.suffix_refl _
      · exact ((isSuffix_takeDigits _).trans (isSuffix_takeSign _)).trans (List.suffix_cons _ _)
    · exact List.suffix_refl _
  · exact List.suffix_refl _

theorem shortens_readUnsigned {negative : Bool} {t rest : Text} {v : Value}
    (hread : readUnsigned negative t = .ok (v, rest)) : Shortens t rest := by
  unfold readUnsigned at hread
  split at hread
  · cases hread
  · rename_i whole after hwhole
    have htail : (readPower (readFraction after).2).2 <:+ after :=
      (isSuffix_readPower _).trans (isSuffix_readFraction after)
    have hshort := (shortens_readWhole? hwhole).trans_isSuffix htail
    dsimp only at hread
    split at hread
    · split at hread
      · cases hread
      · cases hread
        exact hshort
    · cases hread
      exact hshort

theorem shortens_readPlain {t rest : Text} {v : Value} (hread : readPlain t = .ok (v, rest)) :
    Shortens t rest := by
  rw [readPlain_eq] at hread
  split at hread
  · rename_i word value hfind
    cases hread
    have hne : ∀ w ∈ words.map Prod.fst, w ≠ [] := by decide
    have hword : word ≠ [] :=
      hne word (List.mem_map_of_mem (f := Prod.fst) (List.mem_of_find?_eq_some hfind))
    have hbegins : word <+: t := List.isPrefixOf_iff_prefix.mp
      (List.find?_some (p := fun word : Text × Value => word.1.isPrefixOf t) hfind)
    have hpos : 0 < word.length := List.length_pos_iff.mpr hword
    have hlength := hbegins.length_le
    exact ⟨List.drop_suffix _ _, by rw [List.length_drop]; omega⟩
  · unfold readNumber at hread
    split at hread
    · exact shortens_of_isSuffix (List.suffix_cons _ _) (shortens_readUnsigned hread)
    · exact shortens_readUnsigned hread

theorem shortens_readCode {t rest : Text} {code : Nat} (hread : readCode t = .ok (code, rest)) :
    Shortens t rest := by
  unfold readCode at hread
  split at hread
  · split at hread
    · cases hread
      exact ⟨⟨[_, _, _, _], rfl⟩, by simp only [List.length_cons]; omega⟩
    · cases hread
  · cases hread

theorem shortens_readUnicode {t rest : Text} {c : Char} (hread : readUnicode t = .ok (c, rest)) :
    Shortens t rest := by
  rw [readUnicode_eq, bind_eq_ok_iff] at hread
  obtain ⟨⟨high, after⟩, hcode, hread⟩ := hread
  refine (shortens_readCode hcode).trans_isSuffix ?_
  dsimp only at hread
  by_cases hescape : ['\\', 'u'] <+: after
  · obtain ⟨low, rfl⟩ := hescape
    rw [charAt_escape] at hread
    split at hread
    · rw [bind_eq_ok_iff] at hread
      obtain ⟨⟨code, beyond⟩, hlow, hread⟩ := hread
      dsimp only at hread
      split at hread
      · obtain ⟨-, rfl⟩ := Prod.mk.inj (Except.ok.inj hread)
        exact (shortens_readCode hlow).isSuffix.trans (List.suffix_append _ _)
      · obtain ⟨-, rfl⟩ := Prod.mk.inj (Except.ok.inj hread)
        exact List.suffix_refl _
    · cases hread
      exact List.suffix_refl _
  · rw [charAt_of_not_isPrefix hescape] at hread
    cases hread
    exact List.suffix_refl _

theorem shortens_readText {fuel : Nat} {read t rest s : Text}
    (hread : readText fuel read t = .ok (s, rest)) : Shortens t rest := by
  induction fuel generalizing read t with
  | zero => cases hread
  | succ fuel ih =>
    cases t with
    | nil => cases hread
    | cons c t =>
      refine (shortens_cons c t).trans_isSuffix ?_
      rw [readText_succ_cons] at hread
      split at hread
      · cases hread
        exact List.suffix_refl _
      · split at hread
        · cases hread
        · split at hread
          · unfold readEscape at hread
            split at hread
            · rw [bind_eq_ok_iff] at hread
              obtain ⟨⟨d, after⟩, hcode, hread⟩ := hread
              exact ((ih hread).isSuffix.trans (shortens_readUnicode hcode).isSuffix).trans
                (List.suffix_cons _ _)
            · split at hread
              · exact (ih hread).isSuffix.trans (List.suffix_cons _ _)
              · cases hread
            · cases hread
          · exact (ih hread).isSuffix

/-- More fuel than there are characters changes nothing. -/
theorem readText_congr {fuel other : Nat} {t : Text} (read : Text) (hfuel : t.length < fuel)
    (hother : t.length < other) : readText fuel read t = readText other read t := by
  induction fuel generalizing other read t with
  | zero => exact absurd hfuel (Nat.not_lt_zero _)
  | succ fuel ih =>
    obtain ⟨other, rfl⟩ := Nat.exists_eq_succ_of_ne_zero (Nat.ne_zero_of_lt hother)
    cases t with
    | nil => rfl
    | cons c t =>
      rw [List.length_cons] at hfuel hother
      have hescape : readEscape fuel read t = readEscape other read t := by
        unfold readEscape
        split
        · rename_i t
          rw [List.length_cons] at hfuel hother
          cases hcode : readUnicode t with
          | error e => rfl
          | ok found =>
            have hlt := (shortens_readUnicode hcode).length_lt
            exact ih (found.1 :: read) (by omega) (by omega)
        · rw [List.length_cons] at hfuel hother
          split
          · exact ih _ (by omega) (by omega)
          · rfl
        · rfl
      have hrest : readText fuel (c :: read) t = readText other (c :: read) t :=
        ih (c :: read) (by omega) (by omega)
      rw [readText_succ_cons, readText_succ_cons, hescape, hrest]

theorem readString_append_gaps (u : Text) (hg : Gaps g) :
    readString (u ++ g) = withRest g (readString u) := by
  have hfuel : u.length < (u ++ g).length + 1 := by
    rw [List.length_append]
    omega
  rw [readString, readText_append_gaps _ _ _ hg, readString,
    readText_congr [] hfuel (Nat.lt_succ_self u.length)]

end RecordFilter.Json
