import RecordFilter.Proofs.Json.Writing

/-!
Data in JSON are read back from what is written of them, except that numbers without a form are
nothing then. All that is written stands on one line.
-/

namespace RecordFilter.Json

open Numeral

mutual

/-- The value with nothing in the place of the numbers that have no form. -/
def nulled : Value → Value
  | .float x => if x.isFinite then .float x else .null
  | .tuple items => .tuple (nulledAll items)
  | .list items => .list (nulledAll items)
  | .dict entries => .dict (nulledEntries entries)
  | v => v

/-- Values in a row with nothing in the place of the numbers that have no form. -/
def nulledAll : List Value → List Value
  | [] => []
  | item :: items => nulled item :: nulledAll items

/-- Members with nothing in the place of the numbers that have no form. -/
def nulledEntries : List (Text × Value) → List (Text × Value)
  | [] => []
  | (name, value) :: entries => (name, nulled value) :: nulledEntries entries

end

theorem nulledAll_eq_map (items : List Value) : nulledAll items = items.map nulled := by
  induction items with
  | nil => rfl
  | cons item items ih => rw [nulledAll, ih, List.map_cons]

theorem nulledEntries_eq_map (entries : List (Text × Value)) :
    nulledEntries entries = entries.map fun entry => (entry.1, nulled entry.2) := by
  induction entries with
  | nil => rfl
  | cons entry entries ih => rw [nulledEntries, ih, List.map_cons]

theorem namesOnce_nulledEntries {entries : List (Text × Value)} (hentries : NamesOnce entries) :
    NamesOnce (nulledEntries entries) := by
  rw [nulledEntries_eq_map, NamesOnce, List.map_map]
  exact hentries

variable {room : Nat} {rest : Text}

theorem beginsPlain_of_readPlain {t : Text} {v : Value} (hread : readPlain t = .ok (v, rest)) :
    BeginsPlain t := by
  intro c hc
  refine ⟨?_, ?_, ?_⟩ <;> rintro rfl
  · exact head?_ne_of_readPlain hread (by decide) (by decide) (by decide) hc
  · exact head?_ne_of_readPlain hread (by decide) (by decide) (by decide) hc
  · exact head?_ne_of_readPlain hread (by decide) (by decide) (by decide) hc

/-- What is read does not begin with white space. -/
theorem Reads.not_isGap {t : Text} {r : Reading} (hread : Reads room t r rest) {c : Char}
    (hc : t.head? = some c) : ¬ isGap c := by
  induction hread with
  | plain _ hplain =>
    intro hgap
    obtain ⟨hwords, hsign, hdigit⟩ := of_isGap (p := fun c =>
      (∀ w ∈ words.map Prod.fst, w.head? ≠ some c) ∧ c ≠ '-' ∧ ¬ Text.isPlainDigit c)
      (by decide) hgap
    exact head?_ne_of_readPlain hplain (fun w hw => hwords w.1 (List.mem_map_of_mem hw)) hsign
      hdigit hc
  | lastItem _ _ ih => exact ih hc
  | item _ _ _ ih => exact ih hc
  | _ =>
    rw [← Option.some.inj hc]
    decide

theorem Reads.skipGaps_eq {t : Text} {r : Reading} (hread : Reads room t r rest) :
    skipGaps t = t := by
  cases t with
  | nil => rfl
  | cons c t => exact List.dropWhile_cons_of_neg (hread.not_isGap rfl)

theorem Reads.behind_space {t : Text} {r : Reading} (hread : Reads room t r rest) :
    Reads room (skipGaps (' ' :: t)) r rest := by
  have hspace : skipGaps (' ' :: t) = skipGaps t := List.dropWhile_cons_of_pos (by decide)
  rwa [hspace, hread.skipGaps_eq]

theorem endsNumber_cons {c : Char}
    (hc : ¬ Text.isPlainDigit c ∧ c ≠ '.' ∧ c ≠ 'e' ∧ c ≠ 'E') : EndsNumber (c :: rest) :=
  fun _ hd => Option.some.inj hd ▸ hc

/-- A value is read back from what is written of it, wherever something follows that does not
    continue a number. -/
def ReadsBack (room : Nat) (v : Value) : Prop :=
  ∀ rest, EndsNumber rest → Reads room (write v ++ rest) (.value (nulled v)) rest

theorem readsBack_plain {v : Value} (hv : IsPlain v) (room : Nat) : ReadsBack room v := by
  intro rest hrest
  have hread : readPlain (write v ++ rest) = .ok (nulled v, rest) := by
    cases hv with
    | null => rfl
    | boolean b => cases b <;> rfl
    | integer hi => exact readPlain_ofInt hi hrest
    | float x =>
      by_cases hx : x.isFinite
      · rw [write, if_pos hx, nulled, if_pos hx]
        exact readPlain_float hx hrest
      · rw [write, if_neg hx, nulled, if_neg hx]
        rfl
  exact .plain (beginsPlain_of_readPlain hread) hread

theorem string_append (t : Text) : string t ++ rest = '"' :: (t.flatMap escape ++ '"' :: rest) := by
  rw [string, List.cons_append, List.cons_append, List.append_assoc, List.singleton_append]

theorem readsBack_text (t : Text) (room : Nat) : ReadsBack room (.text t) := by
  intro rest _
  rw [write, string_append]
  exact .text (readString_flatMap_escape t rest)

/-- Values in a row are read back up to the closing bracket. -/
theorem reads_items {item : Value} {items : List Value}
    (hitems : ∀ v ∈ item :: items, ReadsBack room v) :
    Reads room (Text.join ", ".toList (writeAll (item :: items)) ++ ']' :: rest)
      (.items (nulledAll (item :: items))) rest := by
  induction items generalizing item with
  | nil =>
    have hitem := hitems item List.mem_cons_self (']' :: rest) (endsNumber_cons (by decide))
    exact .lastItem hitem rfl
  | cons next items ih =>
    have hothers := ih fun v hv => hitems v (List.mem_cons_of_mem _ hv)
    have hitem := hitems item List.mem_cons_self
      (',' :: ' ' :: (Text.join ", ".toList (writeAll (next :: items)) ++ ']' :: rest))
      (endsNumber_cons (by decide))
    have hwritten : Text.join ", ".toList (writeAll (item :: next :: items)) ++ ']' :: rest =
        write item ++
          ',' :: ' ' :: (Text.join ", ".toList (writeAll (next :: items)) ++ ']' :: rest) := by
      rw [writeAll, writeAll, Text.join_cons_cons, List.append_assoc, List.append_assoc]
      rfl
    rw [hwritten]
    exact .item hitem rfl hothers.behind_space

theorem member_append (name : Text) (v : Value) :
    string name ++ ": ".toList ++ write v ++ rest =
      '"' :: (name.flatMap escape ++ '"' :: ':' :: ' ' :: (write v ++ rest)) := by
  rw [List.append_assoc, List.append_assoc, string_append]
  rfl

/-- Members are read back up to the closing brace. -/
theorem reads_members {entry : Text × Value} {entries : List (Text × Value)}
    (hentries : ∀ e ∈ entry :: entries, ReadsBack room e.2) :
    Reads room (Text.join ", ".toList (writeEntries (entry :: entries)) ++ '\x7d' :: rest)
      (.members (nulledEntries (entry :: entries))) rest := by
  obtain ⟨name, v⟩ := entry
  induction entries generalizing name v with
  | nil =>
    have hvalue := hentries (name, v) List.mem_cons_self ('\x7d' :: rest)
      (endsNumber_cons (by decide))
    have hwritten : Text.join ", ".toList (writeEntries [(name, v)]) ++ '\x7d' :: rest =
        '"' :: (name.flatMap escape ++ '"' :: ':' :: ' ' :: (write v ++ '\x7d' :: rest)) :=
      member_append name v
    rw [hwritten]
    exact .lastMember (readString_flatMap_escape _ _) rfl hvalue.behind_space rfl
  | cons next entries ih =>
    obtain ⟨other, w⟩ := next
    have hothers := ih other w fun e he => hentries e (List.mem_cons_of_mem _ he)
    have hvalue := hentries (name, v) List.mem_cons_self
      (',' :: ' ' :: (Text.join ", ".toList (writeEntries ((other, w) :: entries)) ++
        '\x7d' :: rest)) (endsNumber_cons (by decide))
    have hwritten : Text.join ", ".toList (writeEntries ((name, v) :: (other, w) :: entries)) ++
        '\x7d' :: rest = string name ++ ": ".toList ++ write v ++
          ',' :: ' ' :: (Text.join ", ".toList (writeEntries ((other, w) :: entries)) ++
            '\x7d' :: rest) := by
      rw [writeEntries, writeEntries, Text.join_cons_cons, List.append_assoc _ (Text.join _ _),
        List.append_assoc _ (", ".toList)]
      rfl
    rw [hwritten, member_append]
    exact .member (readString_flatMap_escape _ _) rfl hvalue.behind_space rfl hothers.behind_space

/-- Data that are not nested too deeply are read back from what is written of them. -/
theorem readsBack_of_isData {v : Value} (hv : IsData v) (hheight : height v ≤ room) :
    ReadsBack room v := by
  induction hv generalizing room with
  | plain hv => exact readsBack_plain hv room
  | text t => exact readsBack_text t room
  | @list items _ ih =>
    intro rest _
    obtain ⟨room, rfl⟩ := Nat.exists_eq_succ_of_ne_zero (Nat.ne_zero_of_lt hheight)
    have hitems := heightOfAll_le_iff.mp (Nat.le_of_succ_le_succ hheight)
    rw [write, nulled, List.cons_append, List.cons_append, List.append_assoc,
      List.singleton_append]
    cases items with
    | nil => exact .emptyList rfl
    | cons item items =>
      have hread : Reads room _ _ rest := reads_items fun v hv => ih v hv (hitems v hv)
      exact .list (hread.skipGaps_eq.symm ▸ hread)
  | @dict entries hnames _ ih =>
    intro rest _
    obtain ⟨room, rfl⟩ := Nat.exists_eq_succ_of_ne_zero (Nat.ne_zero_of_lt hheight)
    have hentries := heightOfEntries_le_iff.mp (Nat.le_of_succ_le_succ hheight)
    rw [write, nulled, List.cons_append, List.cons_append, List.append_assoc,
      List.singleton_append]
    cases entries with
    | nil => exact .emptyDict rfl
    | cons entry entries =>
      have hread : Reads room _ _ rest := reads_members fun e he => ih e he (hentries e he)
      have hmembers := membersOf_eq_self (namesOnce_nulledEntries hnames)
      rw [← hmembers]
      exact .dict (hread.skipGaps_eq.symm ▸ hread)

/-- Data on a line are read back, with nothing in the place of the numbers that have no form. -/
theorem read_write_line {v : Value} (hv : IsData v) (hheight : height v ≤ depthLimit) :
    read (write v ++ ['\n']) = .ok (nulled v) := by
  have hread := readsBack_of_isData hv hheight ['\n'] (endsNumber_cons (by decide))
  rw [read_eq_ok_iff]
  exact ⟨['\n'], hread.skipGaps_eq.symm ▸ hread, rfl⟩

theorem newline_not_mem_escape (c : Char) : '\n' ∉ escape c := by
  rcases escape_cases c with ⟨e, he, hescape⟩ | ⟨hcontrol, hescape⟩ | ⟨-, -, hcontrol, hescape⟩
  · rw [hescape, List.mem_cons, List.mem_singleton, not_or]
    refine ⟨by decide, ?_⟩
    rintro rfl
    cases he
  · have hcodes : ∀ n < 32, '\n' ∉ Text.hexDigits 4 n := by decide
    rw [hescape, List.mem_cons, List.mem_cons, not_or, not_or]
    exact ⟨by decide, by decide, hcodes c.toNat hcontrol⟩
  · rw [hescape, List.mem_singleton]
    rintro rfl
    exact hcontrol (by decide)

theorem newline_not_mem_string (t : Text) : '\n' ∉ string t := by
  rw [string, List.cons_append, List.mem_cons, List.mem_append, List.mem_flatMap, not_or, not_or]
  exact ⟨by decide, fun ⟨c, _, hc⟩ => newline_not_mem_escape c hc, by decide⟩

theorem newline_not_mem_ofInt (i : Int) : '\n' ∉ Text.ofInt i := by
  intro hmem
  rcases Text.isPlainDigit_or_eq_of_mem_ofInt hmem with hdigit | hsign
  · exact absurd hdigit (by decide)
  · exact absurd hsign (by decide)

theorem newline_not_mem_text (x : Binary64) : '\n' ∉ x.text := by
  intro hmem
  obtain ⟨hlow, -⟩ := isNumberChar_of_readFloat? (Binary64.readFloat?_text x) '\n' hmem
  exact absurd hlow (by decide)

theorem newline_not_mem_join {pieces : List Text} (hpieces : ∀ piece ∈ pieces, '\n' ∉ piece) :
    '\n' ∉ Text.join ", ".toList pieces := by
  intro hmem
  rcases Text.mem_join hmem with hseparator | ⟨piece, hpiece, hmem⟩
  · exact absurd hseparator (by decide)
  · exact hpieces piece hpiece hmem

theorem newline_not_mem_brackets {t : Text} {first last : Char} (ht : '\n' ∉ t)
    (hfirst : '\n' ≠ first) (hlast : '\n' ≠ last) : '\n' ∉ first :: t ++ [last] := by
  simp [ht, hfirst, hlast]

mutual

/-- Whatever is written stands on one line. -/
theorem newline_not_mem_write : ∀ v : Value, '\n' ∉ write v
  | .null => by decide
  | .boolean true => by decide
  | .boolean false => by decide
  | .integer i => newline_not_mem_ofInt i
  | .size n => newline_not_mem_ofInt n
  | .float x => by
    rw [write]
    split
    · exact newline_not_mem_text x
    · decide
  | .text t => newline_not_mem_string t
  | .duration d => newline_not_mem_string d.text
  | .date d => newline_not_mem_string d.text
  | .moment m => newline_not_mem_string m.text
  | .tuple items =>
    newline_not_mem_brackets (newline_not_mem_join (newline_not_mem_writeAll items)) (by decide)
      (by decide)
  | .list items =>
    newline_not_mem_brackets (newline_not_mem_join (newline_not_mem_writeAll items)) (by decide)
      (by decide)
  | .dict entries =>
    newline_not_mem_brackets (newline_not_mem_join (newline_not_mem_writeEntries entries))
      (by decide) (by decide)

theorem newline_not_mem_writeAll : ∀ items : List Value, ∀ t ∈ writeAll items, '\n' ∉ t
  | [] => nofun
  | item :: items =>
    List.forall_mem_cons.mpr ⟨newline_not_mem_write item, newline_not_mem_writeAll items⟩

theorem newline_not_mem_writeEntries :
    ∀ entries : List (Text × Value), ∀ t ∈ writeEntries entries, '\n' ∉ t
  | [] => nofun
  | (name, v) :: entries => by
    have hvalue := newline_not_mem_write v
    have hname := newline_not_mem_string name
    rw [writeEntries, List.forall_mem_cons]
    refine ⟨?_, newline_not_mem_writeEntries entries⟩
    rw [List.mem_append, List.mem_append, not_or, not_or]
    exact ⟨⟨hname, by decide⟩, hvalue⟩

end

end RecordFilter.Json
