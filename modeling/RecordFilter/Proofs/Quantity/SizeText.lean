import RecordFilter.Proofs.Quantity.NumberText
import RecordFilter.Proofs.Text.Case

/-!
The texts of memory sizes.

In capitals and without outer blanks, a size is a plain number, blanks and a unit
(`SizeForm.Spells`). Whatever is taken apart as a size is spelled so, and what is spelled so is
taken apart as its form.
-/

namespace RecordFilter

namespace Numeral

/-- Digits, and a point and digits if there is a fraction. -/
def plainText (whole : Text) : Text → Text
  | [] => whole
  | c :: fraction => whole ++ '.' :: c :: fraction

/-- What a plain number is made of: digits, and digits or nothing. -/
structure Parts (whole fraction : Text) : Prop where
  whole : Text.Digits whole
  fraction : ∀ c ∈ fraction, Text.isPlainDigit c

variable {t whole fraction : Text}

theorem plainText_of_ne_nil (hfraction : fraction ≠ []) :
    plainText whole fraction = whole ++ '.' :: fraction := by
  obtain ⟨c, fraction, rfl⟩ := List.exists_cons_of_ne_nil hfraction
  rfl

theorem exists_parts_of_isPlain (ht : isPlain t) :
    ∃ whole fraction, Parts whole fraction ∧ t = plainText whole fraction := by
  have hsplit := eq_append_takeDigits t
  have hplain : ∀ c ∈ (takeDigits t).1, Text.isPlainDigit c := isPlainDigit_of_mem_takeDigits
  simp only [isPlain, Bool.and_eq_true, Bool.not_eq_true', List.isEmpty_eq_false_iff] at ht
  obtain ⟨hne, hrest⟩ := ht
  split at hrest
  · rename_i hnil
    rw [hnil, List.append_nil] at hsplit
    exact ⟨_, [], ⟨⟨hne, hplain⟩, List.forall_mem_nil _⟩, hsplit⟩
  · rename_i fraction hpoint
    rw [isDigits, Bool.and_eq_true, List.all_eq_true] at hrest
    cases fraction with
    | nil => cases hrest.1
    | cons c fraction =>
      rw [hpoint] at hsplit
      exact ⟨_, c :: fraction, ⟨⟨hne, hplain⟩, hrest.2⟩, hsplit⟩
  · cases hrest

theorem Parts.takeSign_eq (hparts : Parts whole fraction) (rest : Text) :
    takeSign (plainText whole fraction ++ rest) = (false, plainText whole fraction ++ rest) := by
  cases fraction with
  | nil => exact takeSign_of_digits hparts.whole
  | cons c fraction =>
    rw [plainText, List.append_assoc]
    exact takeSign_of_digits hparts.whole

theorem Parts.isPlain (hparts : Parts whole fraction) : isPlain (plainText whole fraction) := by
  have hne := hparts.whole.ne_nil
  cases fraction with
  | nil => simp [Numeral.isPlain, plainText, takeDigits_of_digits hparts.whole, hne]
  | cons c fraction =>
    have hdigits : takeDigits (whole ++ '.' :: c :: fraction) = (whole, '.' :: c :: fraction) :=
      takeDigits_append_cons hparts.whole (by decide)
    have hplaces : isDigits (c :: fraction) :=
      isDigits_eq_true ⟨List.cons_ne_nil c _, hparts.fraction⟩
    simp [Numeral.isPlain, plainText, hdigits, hne, hplaces]

theorem isPlain_of_digits (ht : Text.Digits t) : isPlain t :=
  Parts.isPlain ⟨ht, List.forall_mem_nil _⟩

theorem Parts.characters (hparts : Parts whole fraction) :
    ∀ c ∈ plainText whole fraction, Text.isPlainDigit c ∨ c = '.' := by
  intro c hc
  cases fraction with
  | nil => exact Or.inl (hparts.whole.plain c hc)
  | cons d fraction =>
    rw [plainText, List.mem_append, List.mem_cons] at hc
    rcases hc with hc | rfl | hc
    · exact Or.inl (hparts.whole.plain c hc)
    · exact Or.inr rfl
    · exact Or.inl (hparts.fraction c hc)

theorem takeSign_of_isPlain (ht : isPlain t) : takeSign t = (false, t) := by
  obtain ⟨whole, fraction, hparts, rfl⟩ := exists_parts_of_isPlain ht
  have hsign := hparts.takeSign_eq []
  rwa [List.append_nil] at hsign

theorem Parts.spells (hparts : Parts whole fraction) :
    Spells (plainText whole fraction) ⟨whole, fraction, 0⟩ (!fraction.isEmpty) [] where
  text_eq := by cases fraction <;> simp [plainText]
  whole := hparts.whole.plain
  fraction := hparts.fraction
  pointless := by simp
  ne_nil := fun hnil => hparts.whole.ne_nil (List.append_eq_nil_iff.mp hnil).1
  exponent := rfl

/-- A plain number is a number, with and without a sign. -/
theorem exists_readFloat?_of_isPlain (ht : isPlain (takeSign t).2) :
    ∃ x, readFloat? t = some x := by
  obtain ⟨whole, fraction, hparts, hrest⟩ := exists_parts_of_isPlain ht
  have hform := hparts.spells.read?_eq
  rw [← hrest] at hform
  simp only [readFloat?, hform]
  exact ⟨_, rfl⟩

/-- What leaves digits and points alone leaves plain numbers alone. -/
theorem Parts.map_eq (hparts : Parts whole fraction) {f : Char → Char}
    (hdigit : ∀ c, Text.isPlainDigit c → f c = c) (hpoint : f '.' = '.') :
    (plainText whole fraction).map f = plainText whole fraction := by
  refine (List.map_congr_left fun c hc => ?_).trans (List.map_id _)
  rcases hparts.characters c hc with h | rfl
  · exact hdigit c h
  · exact hpoint

/-- A duration takes a plain number off the beginning of a text, where nothing goes on with it. -/
theorem Parts.takeNumber_eq (hparts : Parts whole fraction) {rest : Text}
    (hrest : ∀ c, rest.head? = some c → ¬ Text.isPlainDigit c ∧ c ≠ '.') :
    Duration.takeNumber (plainText whole fraction ++ rest) =
      some (DecimalForm.value false ⟨whole, fraction, 0⟩, rest) := by
  have hne := hparts.whole.ne_nil
  have hbehind {digits : Text} (hdigits : ∀ c ∈ digits, Text.isPlainDigit c) :
      takeDigits (digits ++ rest) = (digits, rest) :=
    takeDigits_append hdigits fun c hc => (hrest c hc).1
  cases fraction with
  | nil =>
    simp only [Duration.takeNumber, plainText, hbehind hparts.whole.plain]
    cases rest with
    | nil => simp [hne]
    | cons c rest =>
      have hpoint : c ≠ '.' := (hrest c rfl).2
      simp [hne, hpoint]
  | cons c fraction =>
    have hdigits : takeDigits (whole ++ '.' :: (c :: fraction ++ rest)) =
        (whole, '.' :: (c :: fraction ++ rest)) :=
      takeDigits_append_cons hparts.whole (by decide)
    rw [plainText, List.append_assoc, List.cons_append]
    simp only [Duration.takeNumber, hdigits, hbehind hparts.fraction]
    simp

end Numeral

namespace Quantity

variable {t unit blanks : Text} {bits : Nat} {form : SizeForm}

/-- A unit is a letter or none, and a `B` or none behind it. -/
theorem unitBits?_cases (hunit : unitBits? unit = some bits) :
    ∃ letters, (unit = letters ∨ unit = letters ++ ['B']) ∧
      (letters = [] ∧ bits = 0 ∨ ∃ letter, letters = [letter] ∧ sizeBits? letter = some bits) := by
  refine ⟨unitLetter unit, ?_, ?_⟩
  · unfold unitLetter
    split
    · rename_i hlast
      exact Or.inr (List.dropLast_append_getLast? 'B' hlast).symm
    · exact Or.inl rfl
  · unfold unitBits? at hunit
    split at hunit
    · rename_i hnone
      exact Or.inl ⟨hnone, (Option.some.inj hunit).symm⟩
    · rename_i letter hletter
      exact Or.inr ⟨letter, hletter, hunit⟩
    · cases hunit

/-- The letters of units. -/
def unitLetters : List Char := ['K', 'M', 'G', 'T', 'B']

theorem mem_unitLetters_of_sizeBits? {letter : Char} (hletter : sizeBits? letter = some bits) :
    letter ∈ unitLetters := by
  unfold sizeBits? at hletter
  split_ifs at hletter with hK hM hG hT
  · rw [hK]
    decide
  · rw [hM]
    decide
  · rw [hG]
    decide
  · rw [hT]
    decide

theorem characters_of_unitBits? (hunit : unitBits? unit = some bits) :
    ∀ c ∈ unit, c ∈ unitLetters := by
  obtain ⟨letters, hunit, hletters⟩ := unitBits?_cases hunit
  have hmem : ∀ c ∈ letters, c ∈ unitLetters := by
    rcases hletters with ⟨rfl, -⟩ | ⟨letter, rfl, hletter⟩
    · nofun
    · exact List.forall_mem_singleton.mpr (mem_unitLetters_of_sizeBits? hletter)
  rcases hunit with rfl | rfl
  · exact hmem
  · exact List.forall_mem_append.mpr ⟨hmem, by decide⟩

namespace SizeForm

/-- Behind the number of a size, blanks and a unit are left. -/
theorem read?_plainText {whole fraction rest : Text} (hparts : Numeral.Parts whole fraction)
    (hrest : ∀ c, rest.head? = some c → ¬ Text.isPlainDigit c ∧ c ≠ '.') :
    read? (Numeral.plainText whole fraction ++ rest) =
      (unitBits? (rest.dropWhile Text.isBlank)).map fun bits => ⟨whole, fraction, bits⟩ := by
  have hne := hparts.whole.ne_nil
  have hbehind {digits : Text} (hdigits : ∀ c ∈ digits, Text.isPlainDigit c) :
      Numeral.takeDigits (digits ++ rest) = (digits, rest) :=
    Numeral.takeDigits_append hdigits fun c hc => (hrest c hc).1
  cases fraction with
  | nil =>
    simp only [read?, Numeral.plainText, hbehind hparts.whole.plain]
    cases rest with
    | nil => simp [hne]
    | cons c rest =>
      have hpoint : c ≠ '.' := (hrest c rfl).2
      simp [hne, hpoint]
  | cons c fraction =>
    have hdigits : Numeral.takeDigits (whole ++ '.' :: (c :: fraction ++ rest)) =
        (whole, '.' :: (c :: fraction ++ rest)) :=
      Numeral.takeDigits_append_cons hparts.whole (by decide)
    rw [Numeral.plainText, List.append_assoc, List.cons_append]
    simp only [read?, hdigits, hbehind hparts.fraction]
    simp [hne]

/-- The text is the form's number, blanks, and a unit with the binary places of the form. -/
structure Spells (t : Text) (form : SizeForm) (blanks unit : Text) : Prop where
  text_eq : t = Numeral.plainText form.whole form.fraction ++ (blanks ++ unit)
  parts : Numeral.Parts form.whole form.fraction
  blanks : ∀ c ∈ blanks, Text.isBlank c
  unit : unitBits? unit = some form.bits

/-- Behind the number of a size there is neither a digit nor a point. -/
theorem Spells.head?_ne (ht : Spells t form blanks unit) :
    ∀ c, (blanks ++ unit).head? = some c → ¬ Text.isPlainDigit c ∧ c ≠ '.' := by
  intro c hc
  rcases List.mem_append.mp (List.mem_of_head? hc) with hmem | hmem
  · have hblank := ht.blanks c hmem
    refine ⟨fun hdigit => Text.not_isBlank_of_isPlainDigit hdigit hblank, ?_⟩
    rintro rfl
    exact absurd hblank (by decide)
  · have hletters : ∀ c ∈ unitLetters, ¬ Text.isPlainDigit c ∧ c ≠ '.' := by decide
    exact hletters c (characters_of_unitBits? ht.unit c hmem)

theorem Spells.dropWhile_isBlank (ht : Spells t form blanks unit) :
    (blanks ++ unit).dropWhile Text.isBlank = unit := by
  rw [List.dropWhile_append_of_pos ht.blanks, Text.dropWhile_eq_self_iff]
  intro c hc
  have hletters : ∀ c ∈ unitLetters, ¬ Text.isBlank c := by decide
  exact hletters c (characters_of_unitBits? ht.unit c (List.mem_of_head? hc))

theorem Spells.read?_eq (ht : Spells t form blanks unit) : read? t = some form := by
  rw [ht.text_eq, read?_plainText ht.parts ht.head?_ne, ht.dropWhile_isBlank, ht.unit]
  rfl

/-- What is taken apart as a size is spelled as its form. -/
theorem exists_spells_of_read? (hread : read? t = some form) :
    ∃ blanks unit, Spells t form blanks unit := by
  have hsplit := Numeral.eq_append_takeDigits t
  have hplain : ∀ c ∈ (Numeral.takeDigits t).1, Text.isPlainDigit c :=
    Numeral.isPlainDigit_of_mem_takeDigits
  simp only [read?] at hread
  split at hread
  · cases hread
  rename_i hempty
  have hwhole : Text.Digits (Numeral.takeDigits t).1 := ⟨by simpa using hempty, hplain⟩
  obtain ⟨⟨fraction, rest⟩, hnumber, hread⟩ := Option.bind_eq_some_iff.mp hread
  obtain ⟨bits, hunit, rfl⟩ := Option.map_eq_some_iff.mp hread
  have hparts : (∀ c ∈ fraction, Text.isPlainDigit c) ∧
      t = Numeral.plainText (Numeral.takeDigits t).1 fraction ++ rest := by
    split at hnumber
    · rename_i behind hpoint
      have hbehind := Numeral.eq_append_takeDigits behind
      have hdigits : ∀ c ∈ (Numeral.takeDigits behind).1, Text.isPlainDigit c :=
        Numeral.isPlainDigit_of_mem_takeDigits
      split at hnumber
      · cases hnumber
      · rename_i hfraction
        obtain ⟨rfl, rfl⟩ := Prod.mk.inj (Option.some.inj hnumber)
        refine ⟨hdigits, ?_⟩
        have hsome : Numeral.plainText (Numeral.takeDigits t).1 (Numeral.takeDigits behind).1 =
            (Numeral.takeDigits t).1 ++ '.' :: (Numeral.takeDigits behind).1 :=
          Numeral.plainText_of_ne_nil (by simpa using hfraction)
        rw [hsome, List.append_assoc, List.cons_append, ← hbehind, ← hpoint]
        exact hsplit
    · obtain ⟨rfl, rfl⟩ := Prod.mk.inj (Option.some.inj hnumber)
      exact ⟨List.forall_mem_nil _, hsplit⟩
  refine ⟨rest.takeWhile Text.isBlank, rest.dropWhile Text.isBlank, ?_, ⟨hwhole, hparts.1⟩,
    fun c hc => List.mem_takeWhile_imp hc, hunit⟩
  rw [List.takeWhile_append_dropWhile]
  exact hparts.2

/-- The characters of sizes: digits, points, blanks and the letters of units. -/
theorem Spells.characters (ht : Spells t form blanks unit) :
    ∀ c ∈ t, Text.isPlainDigit c ∨ c = '.' ∨ Text.isBlank c ∨ c ∈ unitLetters := by
  intro c hc
  rw [ht.text_eq, List.mem_append, List.mem_append] at hc
  rcases hc with hc | hc | hc
  · exact (ht.parts.characters c hc).imp_right Or.inl
  · exact Or.inr (Or.inr (Or.inl (ht.blanks c hc)))
  · exact Or.inr (Or.inr (Or.inr (characters_of_unitBits? ht.unit c hc)))

end SizeForm

/-- What is read as a size is one in capitals and without outer blanks. -/
theorem exists_spells_of_readSize {n : Int} (hread : readSize t = .ok n) :
    ∃ form blanks unit, SizeForm.Spells (Text.upper (Text.trim t)) form blanks unit ∧
      form.product.truncate? = some n := by
  rw [readSize] at hread
  split at hread
  · cases hread
  · rename_i form hform
    split at hread
    · cases hread
    · rename_i bytes hbytes
      obtain ⟨blanks, unit, hspells⟩ := SizeForm.exists_spells_of_read? hform
      exact ⟨form, blanks, unit, hspells, by rw [hbytes, Except.ok.inj hread]⟩

/-- A size has no colon, in whatever letter case. -/
theorem colon_not_mem_of_readSize {n : Int} (hread : readSize t = .ok n) : ':' ∉ t := by
  obtain ⟨form, blanks, unit, hspells, -⟩ := exists_spells_of_readSize hread
  rw [← Text.mem_trim_iff (by decide), ← Text.mem_upper_iff (by decide)]
  intro hmem
  rcases hspells.characters ':' hmem with h | h | h | h <;> exact absurd h (by decide)

end Quantity

end RecordFilter
