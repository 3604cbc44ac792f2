import RecordFilter.Proofs.Json.Readings

/-!
Texts in JSON that are cut off.

A character that belongs to no number, word or mark of the format, and is no white space, stands in
quotes. What is read up to such a character stays the same when the text is cut off there, and what
is read beyond it is no longer read: the quotes are not closed.
-/

namespace RecordFilter.Json

/-- The marks of the format. -/
def marks : List Char :=
  ['"', '\\', '[', ']', '\x7b', '\x7d', ':', ',']

/-- A character that stands in quotes only. -/
structure IsQuotedOnly (c : Char) : Prop extends IsSeparator c where
  gap : ¬ isGap c
  mark : c ∉ marks

instance (c : Char) : Decidable (IsQuotedOnly c) :=
  decidable_of_iff (IsSeparator c ∧ ¬ isGap c ∧ c ∉ marks)
    ⟨fun ⟨hseparator, hgap, hmark⟩ => ⟨hseparator, hgap, hmark⟩,
      fun ⟨hseparator, hgap, hmark⟩ => ⟨hseparator, hgap, hmark⟩⟩

/-- All but two of the characters that end a line stand in quotes only. -/
theorem isQuotedOnly_of_isLineBreak {c : Char} (hc : Text.isLineBreak c) (hfeed : c ≠ '\n')
    (hreturn : c ≠ '\r') : IsQuotedOnly c :=
  Text.of_isLineBreak (p := fun c => c ≠ '\n' → c ≠ '\r' → IsQuotedOnly c) (by decide) hc hfeed
    hreturn

/-- Of a reading up to the rest, what comes of it when the text is cut off before `tail`: the same,
    if that is all in the rest, or else a text that breaks the rules. Without the fuel that it
    takes, the reading breaks them as well. -/
def CutsTo {α : Type} (tail : Text) (whole part : Except JsonError (α × Text)) : Prop :=
  ∀ a rest, whole = .ok (a, rest) →
    Ends (fun found => found.1 = a ∧ rest = found.2 ++ tail) (· = .malformed) part

section

variable {α β : Type} {tail : Text} {whole part : Except JsonError (α × Text)}

theorem CutsTo.malformed : CutsTo tail whole (.error .malformed) :=
  fun _ _ _ => .error rfl

theorem CutsTo.of_error {e : JsonError} : CutsTo tail (.error e) part :=
  nofun

theorem CutsTo.ok (a : α) (w : Text) : CutsTo tail (.ok (a, w ++ tail)) (.ok (a, w)) := by
  intro b rest hwhole
  obtain ⟨rfl, rfl⟩ := Prod.mk.inj (Except.ok.inj hwhole)
  exact .ok ⟨rfl, rfl⟩

theorem CutsTo.withRest : CutsTo tail (withRest tail part) part := by
  cases part with
  | error e => exact .of_error
  | ok found => exact .ok found.1 found.2

theorem CutsTo.bind (hcuts : CutsTo tail whole part)
    {next later : α × Text → Except JsonError (β × Text)}
    (hnext : ∀ a w, CutsTo tail (next (a, w ++ tail)) (later (a, w))) :
    CutsTo tail (whole >>= next) (part >>= later) := by
  intro b rest hwhole
  obtain ⟨⟨a, middle⟩, hfirst, hsecond⟩ := bind_eq_ok_iff.mp hwhole
  refine (hcuts a middle hfirst).bind ?_
  rintro ⟨_, w⟩ ⟨rfl, rfl⟩
  exact hnext _ w b rest hsecond

end

variable {c : Char} {q : Text}

section

variable (hc : IsQuotedOnly c)

include hc

theorem separates_cons : Separates (c :: q) :=
  fun _ hd => Option.some.inj hd ▸ hc.toIsSeparator

theorem skipGaps_append_cons (u : Text) : skipGaps (u ++ c :: q) = skipGaps u ++ c :: q :=
  Text.dropWhile_append_cons hc.gap

theorem ne_of_mem_marks {d : Char} (hd : d ∈ marks) : c ≠ d :=
  fun h => hc.mark (h ▸ hd)

theorem readEscape_cuts {n m : Nat} (ih : ∀ (m : Nat) (read u : Text),
      CutsTo (c :: q) (readText n read (u ++ c :: q)) (readText m read u)) (read u : Text) :
    CutsTo (c :: q) (readEscape n read (u ++ c :: q)) (readEscape m read u) := by
  cases u with
  | nil => exact .malformed
  | cons d u =>
    by_cases hd : d = 'u'
    · subst hd
      change CutsTo _ (readUnicode (u ++ c :: q) >>= _) (readUnicode u >>= _)
      rw [readUnicode_append_of_separates u (separates_cons hc)]
      exact CutsTo.withRest.bind fun d w => ih m (d :: read) w
    · rw [List.cons_append, readEscape_cons_of_ne hd, readEscape_cons_of_ne hd]
      cases escaped? d with
      | none => exact .malformed
      | some d => exact ih m (d :: read) u

theorem readText_cuts (n m : Nat) (read u : Text) :
    CutsTo (c :: q) (readText n read (u ++ c :: q)) (readText m read u) := by
  induction n generalizing m read u with
  | zero => exact .of_error
  | succ n ih =>
    cases m with
    | zero => exact .malformed
    | succ m =>
      cases u with
      | nil => exact .malformed
      | cons d u =>
        rw [List.cons_append, readText_succ_cons, readText_succ_cons]
        split
        · exact .ok read.reverse u
        · split
          · exact .malformed
          · split
            · exact readEscape_cuts hc ih read u
            · exact ih m (d :: read) u

theorem readString_cuts (u : Text) :
    CutsTo (c :: q) (readString (u ++ c :: q)) (readString u) :=
  readText_cuts hc _ _ [] u

theorem readPlain_cuts (u : Text) : CutsTo (c :: q) (readPlain (u ++ c :: q)) (readPlain u) := by
  rw [readPlain_append_of_separates u (separates_cons hc)]
  exact .withRest

end

section

variable (hc : IsQuotedOnly c)

include hc

theorem head?_append_cons_iff {d : Char} (hd : d ∈ marks) (u : Text) :
    (u ++ c :: q).head? = some d ↔ u.head? = some d := by
  cases u with
  | nil => simpa using ne_of_mem_marks hc hd
  | cons e u => rfl

section

variable {room n : Nat}
  (hvalue : ∀ room m u, CutsTo (c :: q) (readValue room n (u ++ c :: q)) (readValue room m u))
  (hitems : ∀ room m u, CutsTo (c :: q) (readItems room n (u ++ c :: q)) (readItems room m u))
  (hmembers : ∀ room m u, CutsTo (c :: q) (readMembers room n (u ++ c :: q)) (readMembers room m u))

theorem beginsPlain_append_cons {u : Text} (hu : BeginsPlain u) : BeginsPlain (u ++ c :: q) := by
  cases u with
  | nil =>
    intro d hd
    obtain rfl := Option.some.inj hd
    exact ⟨ne_of_mem_marks hc (by decide), ne_of_mem_marks hc (by decide),
      ne_of_mem_marks hc (by decide)⟩
  | cons d u => exact hu

include hitems hmembers in
theorem readValue_succ_cuts (m : Nat) (u : Text) :
    CutsTo (c :: q) (readValue room (n + 1) (u ++ c :: q)) (readValue room m u) := by
  cases m with
  | zero => exact .malformed
  | succ m =>
    by_cases hplain : BeginsPlain u
    · rw [readValue_of_beginsPlain hplain,
        readValue_of_beginsPlain (beginsPlain_append_cons hc hplain)]
      exact readPlain_cuts hc u
    · obtain ⟨d, u, rfl, hd⟩ := exists_of_not_beginsPlain hplain
      rw [List.cons_append]
      rcases hd with rfl | rfl | rfl
      · rw [readValue_quote, readValue_quote]
        exact (readString_cuts hc u).bind fun t w => .ok (Value.text t) w
      · cases room with
        | zero => exact .of_error
        | succ room =>
          rw [readValue_bracket, readValue_bracket, skipGaps_append_cons hc]
          simp only [head?_append_cons_iff hc (d := ']') (by decide)]
          split
          · rename_i hempty
            obtain ⟨w, hw⟩ := List.head?_eq_some_iff.mp hempty
            rw [hw]
            exact .ok (Value.list []) w
          · exact (hitems room m _).bind fun items w => .ok (Value.list items) w
      · cases room with
        | zero => exact .of_error
        | succ room =>
          rw [readValue_brace, readValue_brace, skipGaps_append_cons hc]
          simp only [head?_append_cons_iff hc (d := '\x7d') (by decide)]
          split
          · rename_i hempty
            obtain ⟨w, hw⟩ := List.head?_eq_some_iff.mp hempty
            rw [hw]
            exact .ok (Value.dict []) w
          · exact (hmembers room m _).bind fun pairs w => .ok (Value.dict (membersOf pairs)) w

include hvalue hitems in
theorem readItems_succ_cuts (m : Nat) (u : Text) :
    CutsTo (c :: q) (readItems room (n + 1) (u ++ c :: q)) (readItems room m u) := by
  cases m with
  | zero => exact .malformed
  | succ m =>
    rw [readItems, readItems]
    refine (hvalue room m u).bind fun v w => ?_
    dsimp only
    rw [skipGaps_append_cons hc]
    cases skipGaps w with
    | nil => exact .malformed
    | cons d w =>
      rw [List.cons_append]
      split
      · rename_i after hcomma
        obtain ⟨rfl, rfl⟩ := List.cons.inj hcomma
        rw [skipGaps_append_cons hc]
        exact (hitems room m (skipGaps w)).bind fun items rest => .ok (v :: items) rest
      · rename_i after hclose
        obtain ⟨rfl, rfl⟩ := List.cons.inj hclose
        exact .ok [v] w
      · exact .of_error

include hvalue hmembers in
theorem readMembers_succ_cuts (m : Nat) (u : Text) :
    CutsTo (c :: q) (readMembers room (n + 1) (u ++ c :: q)) (readMembers room m u) := by
  cases m with
  | zero => exact .malformed
  | succ m =>
    cases u with
    | nil => exact .malformed
    | cons d u =>
      by_cases hd : d = '"'
      · subst hd
        rw [List.cons_append]
        unfold readMembers
        refine (readString_cuts hc u).bind fun name w => ?_
        dsimp only
        rw [skipGaps_append_cons hc]
        cases skipGaps w with
        | nil => exact .malformed
        | cons d w =>
          rw [List.cons_append]
          split
          · rename_i after hcolon
            obtain ⟨rfl, rfl⟩ := List.cons.inj hcolon
            rw [skipGaps_append_cons hc]
            refine (hvalue room m (skipGaps w)).bind fun v w => ?_
            dsimp only
            rw [skipGaps_append_cons hc]
            cases skipGaps w with
            | nil => exact .malformed
            | cons d w =>
              rw [List.cons_append]
              split
              · rename_i after hcomma
                obtain ⟨rfl, rfl⟩ := List.cons.inj hcomma
                rw [skipGaps_append_cons hc]
                exact (hmembers room m (skipGaps w)).bind fun pairs rest => .ok _ rest
              · rename_i after hclose
                obtain ⟨rfl, rfl⟩ := List.cons.inj hclose
                exact .ok _ w
              · exact .of_error
          · exact .of_error
      · rw [List.cons_append, readMembers_of_ne hd]
        exact .of_error

end

/-- What the readers make of a text up to a character that stands in quotes only is what they make
    of the text if it is cut off there, or else the text breaks the rules then. -/
theorem readers_cut (n : Nat) :
    (∀ room m u, CutsTo (c :: q) (readValue room n (u ++ c :: q)) (readValue room m u)) ∧
    (∀ room m u, CutsTo (c :: q) (readItems room n (u ++ c :: q)) (readItems room m u)) ∧
    ∀ room m u, CutsTo (c :: q) (readMembers room n (u ++ c :: q)) (readMembers room m u) := by
  induction n with
  | zero => exact ⟨fun _ _ _ => .of_error, fun _ _ _ => .of_error, fun _ _ _ => .of_error⟩
  | succ n ih =>
    obtain ⟨hvalue, hitems, hmembers⟩ := ih
    exact ⟨fun _ => readValue_succ_cuts hc hitems hmembers,
      fun _ => readItems_succ_cuts hc hvalue hitems,
      fun _ => readMembers_succ_cuts hc hvalue hmembers⟩

/-- A text that is read as a value is none if it is cut off before a character that stands in quotes
    only. -/
theorem read_of_append_cons {p : Text} {v : Value} (hread : read (p ++ c :: q) = .ok v) :
    read p = .error .malformed := by
  rw [read, skipGaps_append_cons hc, bind_eq_ok_iff] at hread
  obtain ⟨⟨v, rest⟩, hvalue, hend⟩ := hread
  dsimp only at hend
  split at hend
  · rename_i hgaps
    have hcut := (readers_cut hc _).1 _ (2 * p.length + 2) _ _ _ hvalue
    rw [read]
    cases hpart : readValue depthLimit (2 * p.length + 2) (skipGaps p) with
    | error e =>
      rw [hcut.of_eq_error hpart]
      rfl
    | ok found =>
      -- The value would end before the character, which is no white space.
      rw [hpart] at hcut
      obtain ⟨⟨-, rfl⟩⟩ := hcut
      rw [skipGaps_append_cons hc] at hgaps
      simp at hgaps
  · cases hend

end

end RecordFilter.Json
