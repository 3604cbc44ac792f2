import RecordFilter.Proofs.Command.Files
import RecordFilter.Proofs.Json.Truncation

/-!
Records on lines, against records in an array.

A text in JSON may have characters in its quotes that end a line, though it has no line feed and no
carriage return. A line is cut off there, and is no text in JSON any more. All other records on
lines are read as they are in an array.
-/

namespace RecordFilter.Records

open Text (join lines isBlank isBlankText isLineBreak)

/-- The text is the record in JSON, without carriage returns and line feeds. -/
structure IsLine (row : Record) (t : Text) : Prop where
  read : Json.read t = .ok (.dict row)
  feed : '\n' ∉ t
  carriage : '\r' ∉ t

/-- A character in the text ends a line. -/
def IsBroken (t : Text) : Prop :=
  ∃ c ∈ t, isLineBreak c

/-- Reads the lines of a text that are not blank, one by one. -/
def readLines (t : Text) : Except Json.JsonError (List Value) :=
  ((lines t).filter fun line => !isBlankText line).mapM Json.read

variable {row : Record} {rows : List Record} {t : Text} {texts : List Text}

theorem isLineBreak_of_isGap {c : Char} (hc : Json.isGap c) (hbreak : isLineBreak c) :
    c = '\n' ∨ c = '\r' :=
  Json.of_isGap (p := fun c => isLineBreak c → c = '\n' ∨ c = '\r') (by decide) hc hbreak

namespace IsLine

variable (ht : IsLine row t)

include ht

theorem brace_mem : '\x7b' ∈ t :=
  Json.mem_opening (.dict row) ht.read

theorem isBlankText_eq : isBlankText t = false := by
  rw [isBlankText, List.all_eq_false]
  exact ⟨_, ht.brace_mem, by decide⟩

theorem not_isLineBreak_of_isGap {c : Char} (hmem : c ∈ t) (hc : Json.isGap c) :
    ¬ isLineBreak c := by
  intro hbreak
  rcases isLineBreak_of_isGap hc hbreak with rfl | rfl
  · exact ht.feed hmem
  · exact ht.carriage hmem

end IsLine

/-- White space around a line may be taken off. No line ends in it. -/
theorem IsLine.of_append_gaps {a b c : Text} (ht : IsLine row (a ++ b ++ c)) (ha : Json.Gaps a)
    (hc : Json.Gaps c) (hread : Json.read b = .ok (.dict row)) :
    IsLine row b ∧ (IsBroken b ↔ IsBroken (a ++ b ++ c)) := by
  have hsub : ∀ d ∈ b, d ∈ a ++ b ++ c := fun d hd =>
    List.mem_append_left _ (List.mem_append_right _ hd)
  refine ⟨⟨hread, fun h => ht.feed (hsub _ h), fun h => ht.carriage (hsub _ h)⟩, ?_, ?_⟩
  · rintro ⟨d, hd, hbreak⟩
    exact ⟨d, hsub d hd, hbreak⟩
  · rintro ⟨d, hd, hbreak⟩
    refine ⟨d, ?_, hbreak⟩
    rcases List.mem_append.mp hd with hfront | hback
    · rcases List.mem_append.mp hfront with hlead | hmiddle
      · exact absurd hbreak (ht.not_isLineBreak_of_isGap hd (ha d hlead))
      · exact hmiddle
    · exact absurd hbreak (ht.not_isLineBreak_of_isGap hd (hc d hback))

theorem IsLine.dropWhile (ht : IsLine row t) :
    IsLine row (t.dropWhile isBlank) ∧ (IsBroken (t.dropWhile isBlank) ↔ IsBroken t) := by
  have hsplit : t = t.takeWhile Json.isGap ++ t.dropWhile isBlank ++ [] := by
    rw [List.append_nil, Json.dropWhile_isBlank_eq (.dict row) ht.read]
    exact Json.eq_append_skipGaps t
  have hread := Json.read_dropWhile (.dict row) ht.read
  have htrimmed := IsLine.of_append_gaps (hsplit ▸ ht) (Json.gaps_takeWhile t)
    (List.forall_mem_nil _) hread
  rwa [← hsplit] at htrimmed

theorem IsLine.dropEnd (ht : IsLine row t) :
    IsLine row (Text.dropEnd isBlank t) ∧ (IsBroken (Text.dropEnd isBlank t) ↔ IsBroken t) := by
  obtain ⟨tail, hsplit, htail, hread⟩ := Json.read_dropEnd (.dict row) ht.read
  have htrimmed := IsLine.of_append_gaps (a := []) (hsplit ▸ ht) (List.forall_mem_nil _)
    htail hread
  rwa [List.nil_append, ← hsplit] at htrimmed

/-- A line break in a line stands in quotes. -/
theorem IsLine.isQuotedOnly {c : Char} (ht : IsLine row t) (hmem : c ∈ t) (hbreak : isLineBreak c) :
    Json.IsQuotedOnly c := by
  refine Json.isQuotedOnly_of_isLineBreak hbreak ?_ ?_
  · rintro rfl
    exact ht.feed hmem
  · rintro rfl
    exact ht.carriage hmem

/-- What is before the first line break in a line is not blank, and no text in JSON. -/
theorem IsLine.exists_eq_append_cons (ht : IsLine row t) (hbroken : IsBroken t) :
    ∃ p c q, t = p ++ c :: q ∧ (∀ d ∈ p, ¬ isLineBreak d) ∧ isLineBreak c ∧ c ≠ '\r' ∧
      isBlankText p = false ∧ Json.read p = .error .malformed := by
  obtain ⟨p, c, q, rfl, hc, hp⟩ : ∃ p c q, t = p ++ c :: q ∧ isLineBreak c ∧
      ∀ d ∈ p, ¬ isLineBreak d := by
    obtain ⟨c, hfirst⟩ := Option.isSome_iff_exists.mp (List.find?_isSome.mpr hbroken)
    obtain ⟨hc, p, q, hsplit, hp⟩ := List.find?_eq_some_iff_append.mp hfirst
    exact ⟨p, c, q, hsplit, hc, fun d hd => by simpa using hp d hd⟩
  have hmem : c ∈ p ++ c :: q := List.mem_append_right _ List.mem_cons_self
  have hquoted := ht.isQuotedOnly hmem hc
  refine ⟨p, c, q, rfl, hp, hc, ?_, ?_, Json.read_of_append_cons hquoted ht.read⟩
  · rintro rfl
    exact ht.carriage hmem
  · -- The brace at the beginning is before the line break.
    obtain ⟨inner, tail, hskip, -, -⟩ := Json.exists_enclosed (.dict row) ht.read
    rw [Json.skipGaps_append_cons hquoted] at hskip
    cases hgaps : Json.skipGaps p with
    | nil =>
      rw [hgaps] at hskip
      obtain ⟨rfl, -⟩ := List.cons.inj hskip
      exact absurd hc (by decide)
    | cons d rest =>
      rw [hgaps] at hskip
      obtain ⟨rfl, -⟩ := List.cons.inj hskip
      rw [isBlankText, List.all_eq_false]
      exact ⟨_, (List.dropWhile_suffix _).subset (hgaps ▸ List.mem_cons_self), by decide⟩

theorem readLines_append_cons {a : Text} {c : Char} (ha : ∀ d ∈ a, ¬ isLineBreak d)
    (hblank : isBlankText a = false) (hc : isLineBreak c) (hreturn : c ≠ '\r') (b : Text) :
    readLines (a ++ c :: b) =
      Json.read a >>= fun value => readLines b >>= fun values => .ok (value :: values) := by
  rw [readLines, Text.lines_append_cons ha hc hreturn, List.filter_cons_of_pos (by simp [hblank]),
    List.mapM_cons]
  rfl

theorem readLines_eq_ok {a : Text} {v : Value} (ha : ∀ d ∈ a, ¬ isLineBreak d)
    (hblank : isBlankText a = false) (hread : Json.read a = .ok v) : readLines a = .ok [v] := by
  have hne : a ≠ [] := by
    rintro rfl
    cases hblank
  rw [readLines, Text.lines_of_not_isLineBreak hne ha,
    List.filter_cons_of_pos (by simp [hblank]), List.mapM_cons, hread]
  rfl

theorem not_isLineBreak_of_not_isBroken (ht : ¬ IsBroken t) : ∀ d ∈ t, ¬ isLineBreak d :=
  fun d hd hbreak => ht ⟨d, hd, hbreak⟩

/-- Lines that are not broken are read one by one. -/
theorem readLines_join (htexts : List.Forall₂ IsLine rows texts)
    (hwhole : ∀ t ∈ texts, ¬ IsBroken t) :
    readLines (join ['\n'] texts) = .ok (rows.map .dict) := by
  induction htexts with
  | nil => rfl
  | @cons row t rows texts ht hrest ih =>
    have hbreaks := not_isLineBreak_of_not_isBroken (hwhole t List.mem_cons_self)
    cases hrest with
    | nil => exact readLines_eq_ok hbreaks ht.isBlankText_eq ht.read
    | cons _ _ =>
      rw [Text.join_cons_cons, List.append_assoc, List.singleton_append,
        readLines_append_cons hbreaks ht.isBlankText_eq (by decide) (by decide), ht.read,
        ih fun t ht => hwhole t (List.mem_cons_of_mem _ ht)]
      rfl

/-- A line that is broken cannot be read. -/
theorem readLines_join_of_isBroken (htexts : List.Forall₂ IsLine rows texts)
    (hbroken : ∃ t ∈ texts, IsBroken t) :
    readLines (join ['\n'] texts) = .error .malformed := by
  induction htexts with
  | nil => simp at hbroken
  | @cons row t rows texts ht hrest ih =>
    by_cases hfirst : IsBroken t
    · obtain ⟨p, c, q, rfl, hp, hc, hreturn, hblank, hread⟩ := ht.exists_eq_append_cons hfirst
      rw [Text.join_append_cons, readLines_append_cons hp hblank hc hreturn, hread]
      rfl
    · have hlater : ∃ t ∈ texts, IsBroken t := by
        obtain ⟨u, hu, hbreak⟩ := hbroken
        rcases List.mem_cons.mp hu with rfl | hu
        · exact absurd hbreak hfirst
        · exact ⟨u, hu, hbreak⟩
      cases hrest with
      | nil => simp at hlater
      | cons _ _ =>
        rw [Text.join_cons_cons, List.append_assoc, List.singleton_append,
          readLines_append_cons (not_isLineBreak_of_not_isBroken hfirst) ht.isBlankText_eq
            (by decide) (by decide), ht.read, ih hlater]
        rfl

theorem IsLine.exists_not_isBlank (ht : IsLine row t) : ∃ c ∈ t, ¬ isBlank c :=
  ⟨_, ht.brace_mem, by decide⟩

theorem exists_dropWhile_join (htexts : List.Forall₂ IsLine rows texts) :
    ∃ trimmed, (join ['\n'] texts).dropWhile isBlank = join ['\n'] trimmed ∧
      List.Forall₂ IsLine rows trimmed ∧
      ((∃ t ∈ trimmed, IsBroken t) ↔ ∃ t ∈ texts, IsBroken t) := by
  cases htexts with
  | nil => exact ⟨[], rfl, .nil, .rfl⟩
  | @cons row t rows texts ht hrest =>
    obtain ⟨hline, hbroken⟩ := ht.dropWhile
    refine ⟨t.dropWhile isBlank :: texts, Text.dropWhile_join_cons ht.exists_not_isBlank texts,
      .cons hline hrest, ?_⟩
    rw [List.exists_mem_cons_iff, List.exists_mem_cons_iff, hbroken]

theorem exists_dropEnd_join (htexts : List.Forall₂ IsLine rows texts) :
    ∃ trimmed, Text.dropEnd isBlank (join ['\n'] texts) = join ['\n'] trimmed ∧
      List.Forall₂ IsLine rows trimmed ∧
      ((∃ t ∈ trimmed, IsBroken t) ↔ ∃ t ∈ texts, IsBroken t) := by
  induction htexts with
  | nil => exact ⟨[], rfl, .nil, .rfl⟩
  | @cons row t rows texts ht hrest ih =>
    obtain ⟨trimmed, htrimmed, hlines, hbroken⟩ := ih
    cases hrest with
    | nil =>
      obtain ⟨hline, hlast⟩ := ht.dropEnd
      exact ⟨[Text.dropEnd isBlank t], rfl, .cons hline .nil, by simp [hlast]⟩
    | @cons _ next _ others hnext _ =>
      refine ⟨t :: trimmed, ?_, .cons ht hlines, ?_⟩
      · have hne : trimmed ≠ [] := by
          rintro rfl
          cases hlines
        have hlater : ∃ c ∈ join ['\n'] (next :: others), ¬ isBlank c := by
          obtain ⟨c, hmem, hc⟩ := hnext.exists_not_isBlank
          obtain ⟨a, b, rfl⟩ := List.append_of_mem hmem
          rw [Text.join_append_cons]
          exact ⟨c, List.mem_append_right _ List.mem_cons_self, hc⟩
        rw [Text.join_cons_cons, Text.dropEnd_append_of_exists hlater, htrimmed,
          Text.join_cons_of_ne_nil hne, List.append_assoc]
      · rw [List.exists_mem_cons_iff, hbroken, ← List.exists_mem_cons_iff]

theorem exists_trim_join (htexts : List.Forall₂ IsLine rows texts) :
    ∃ trimmed, Text.trim (join ['\n'] texts) = join ['\n'] trimmed ∧
      List.Forall₂ IsLine rows trimmed ∧
      ((∃ t ∈ trimmed, IsBroken t) ↔ ∃ t ∈ texts, IsBroken t) := by
  obtain ⟨first, hfirst, hlines, hbroken⟩ := exists_dropWhile_join htexts
  obtain ⟨trimmed, htrimmed, hlines, hsame⟩ := exists_dropEnd_join hlines
  refine ⟨trimmed, ?_, hlines, hsame.trans hbroken⟩
  rw [Text.trim, Text.trimBy, hfirst, htrimmed]

/-- Lines do not begin as an array does. -/
theorem head?_join_ne (htexts : List.Forall₂ IsLine rows texts) :
    (join ['\n'] texts).head? ≠ some '[' := by
  cases htexts with
  | nil => exact nofun
  | @cons row t rows texts ht _ =>
    cases t with
    | nil => exact absurd ht.brace_mem List.not_mem_nil
    | cons c t =>
      intro hhead
      have hjoin : join ['\n'] ((c :: t) :: texts) = c :: join ['\n'] (t :: texts) :=
        Text.join_append_cons ['\n'] [] c t texts
      rw [hjoin] at hhead
      obtain rfl := Option.some.inj hhead
      obtain ⟨inner, tail, hskip, -, -⟩ := Json.exists_enclosed (.dict row) ht.read
      exact absurd (List.cons.inj hskip).1 (by decide)

/-- Records are read from lines as they are from an array, unless a character in one of the texts
    ends a line: then the text is cut off there and cannot be read. -/
theorem read_join_eq_iff {array : Text} (harray : Json.read array = .ok (.list (rows.map .dict)))
    (htexts : List.Forall₂ IsLine rows texts) :
    read array = .ok rows ∧
      (read (join ['\n'] texts) = read array ↔ ∀ t ∈ texts, ∀ c ∈ t, ¬ isLineBreak c) ∧
      ((∃ t ∈ texts, ∃ c ∈ t, isLineBreak c) →
        read (join ['\n'] texts) = .error .malformed) := by
  have hrows : read array = .ok rows := read_of_array harray
  obtain ⟨trimmed, htrim, hlines, hbroken⟩ := exists_trim_join htexts
  have hhead : (Text.trim (join ['\n'] texts)).head? ≠ some '[' := by
    rw [htrim]
    exact head?_join_ne hlines
  have hparts : readParts (join ['\n'] texts) = readLines (join ['\n'] trimmed) := by
    rw [readParts, parts_eq_lines hhead, htrim]
    rfl
  have hwhole (hnone : ¬ ∃ t ∈ texts, IsBroken t) : read (join ['\n'] texts) = .ok rows := by
    have hread := readLines_join hlines fun t ht h => hnone (hbroken.mp ⟨t, ht, h⟩)
    rw [read, readValues_eq, hparts, hread]
    change (valuesIn _ _ >>= _) = _
    rw [valuesIn_eq_ok hhead]
    exact mapM_ofValue rows
  have hcut (hsome : ∃ t ∈ texts, IsBroken t) :
      read (join ['\n'] texts) = .error .malformed := by
    refine read_of_readParts_eq_error (e := .malformed) ?_
    rw [hparts, readLines_join_of_isBroken hlines (hbroken.mpr hsome)]
  refine ⟨hrows, ⟨fun hsame t ht c hc hbreak => ?_, fun hnone => ?_⟩, hcut⟩
  · rw [hrows, hcut ⟨t, ht, c, hc, hbreak⟩] at hsame
    cases hsame
  · rw [hrows]
    refine hwhole ?_
    rintro ⟨t, ht, c, hc, hbreak⟩
    exact hnone t ht c hc hbreak

/-- A line separator in quotes is read in an array and not on a line. -/
theorem read_join_of_line_separator :
    let rows : List Record :=
      [[("A".toList, .text "x".toList)], [("A".toList, .text "x\u2028y".toList)]]
    let first := "\x7b\"A\": \"x\"\x7d".toList
    let second := "\x7b\"A\": \"x\u2028y\"\x7d".toList
    let array := '[' :: (first ++ ',' :: second) ++ [']']
    read array = .ok rows ∧ read (join ['\n'] [first, second]) = .error .malformed := by
  intro rows first second array
  have hread {value t rest : Text} (room : Nat)
      (htext : Json.readString t = .ok (value, '\x7d' :: rest)) :
      Json.Reads (room + 1) ("\x7b\"A\": \"".toList ++ t)
        (.value (.dict [("A".toList, .text value)])) rest := by
    have hmember : Json.Reads room ("\"A\": \"".toList ++ t)
        (.members [("A".toList, .text value)]) rest :=
      .lastMember rfl rfl (.text htext) rfl
    exact Json.Reads.dict (t := "\"A\": \"".toList ++ t) hmember
  have hfirst : IsLine rows[0] first :=
    ⟨Json.read_eq_ok_iff.mpr ⟨[], hread _ rfl, rfl⟩, by decide, by decide⟩
  have hsecond : IsLine rows[1] second :=
    ⟨Json.read_eq_ok_iff.mpr ⟨[], hread _ rfl, rfl⟩, by decide, by decide⟩
  have harray : Json.read array = .ok (.list (rows.map .dict)) :=
    Json.read_eq_ok_iff.mpr ⟨[], .list (.item (hread _ rfl) rfl (.lastItem (hread _ rfl) rfl)), rfl⟩
  have hread := read_join_eq_iff harray (.cons hfirst (.cons hsecond .nil))
  exact ⟨hread.1, hread.2.2 ⟨second, by simp, '\u2028', by decide, by decide⟩⟩

end RecordFilter.Records
