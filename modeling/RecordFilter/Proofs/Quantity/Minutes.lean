import RecordFilter.Proofs.Quantity.ClockText
import RecordFilter.Proofs.Quantity.SizeText

/-!
Numbers of minutes, which are sizes too.

Sizes are read in any letter case, and so the `m` of minutes is an `M`. No other unit of time has
capitals that are a unit of size: a size that is a compact duration is a number of minutes, or it has
no unit at all (`Quantity.isPlain_or_isMinutes`). And a number of minutes that is a duration is a
size (`Quantity.exists_readSize_of_isMinutes`).
-/

namespace RecordFilter

namespace Duration

/-- A sum of nanoseconds that is a duration is in range of the floating point numbers. -/
theorem isFinite_of_ofNanos? {negative : Bool} {nanos : Binary64} {d : Duration}
    (hnanos : ofNanos? negative nanos = some d) : nanos.isFinite := by
  obtain ⟨micros, hmicros, -⟩ := Option.bind_eq_some_iff.mp hnanos
  have hsigned := Binary64.isFinite_of_isFinite_div (Binary64.isFinite_of_nearestInt? hmicros)
  cases negative with
  | true => exact (Binary64.isFinite_neg nanos).symm.trans hsigned
  | false => exact hsigned

/-- The sum of a single part. -/
theorem sumParts_of_takePart? {t : Text} {part : Binary64} (ht : t ≠ [])
    (hpart : takePart? t = some (part, [])) (total : Binary64) :
    sumParts t.length total t = some (total.add part) := by
  obtain ⟨c, rest, rfl⟩ := List.exists_cons_of_ne_nil ht
  rw [List.length_cons, sumParts, hpart]
  · cases rest.length <;> rfl
  · exact fun h => ht h

end Duration

namespace Quantity

variable {t : Text} {n : Int} {d : Duration}

/-- The text is a plain number and the letter of minutes. -/
def IsMinutes (t : Text) : Prop :=
  ∃ number, Numeral.isPlain number ∧ t = number ++ ['m']

/-- Digits, points and the letter of minutes. -/
def IsMinuteChar (c : Char) : Prop :=
  Text.isPlainDigit c ∨ c = '.' ∨ c = 'm'

theorem IsMinutes.isMinuteChar (ht : IsMinutes t) : ∀ c ∈ t, IsMinuteChar c := by
  obtain ⟨number, hnumber, rfl⟩ := ht
  obtain ⟨whole, fraction, hparts, rfl⟩ := Numeral.exists_parts_of_isPlain hnumber
  have hletter : IsMinuteChar 'm' := Or.inr (Or.inr rfl)
  refine List.forall_mem_append.mpr ⟨fun c hc => ?_, List.forall_mem_singleton.mpr hletter⟩
  exact (hparts.characters c hc).imp_right Or.inl

section

variable (ht : ∀ c ∈ t, IsMinuteChar c)
include ht

theorem trim_eq_of_isMinuteChar : Text.trim t = t := by
  refine Text.trim_eq_self_of_not_isBlank fun c hc => ?_
  rcases ht c hc with h | rfl | rfl
  · exact Text.not_isBlank_of_isPlainDigit h
  · decide
  · decide

theorem upper_eq_of_isMinuteChar : Text.upper t = t.map Char.toUpper := by
  refine Text.upper_eq_map fun c hc => ?_
  rcases ht c hc with h | rfl | rfl
  · exact Nat.lt_of_le_of_lt (Text.isPlainDigit_iff.mp h).2 (by decide)
  · decide
  · decide

theorem characters_upper_of_isMinuteChar :
    ∀ c ∈ Text.upper t, Text.isPlainDigit c ∨ c = '.' ∨ c = 'M' := by
  rw [upper_eq_of_isMinuteChar ht, List.forall_mem_map]
  intro c hc
  rcases ht c hc with h | rfl | rfl
  · exact Or.inl ((toUpper_of_isPlainDigit h).symm ▸ h)
  · exact Or.inr (Or.inl rfl)
  · exact Or.inr (Or.inr rfl)

theorem map_toLower_upper : (Text.upper t).map Char.toLower = t := by
  rw [upper_eq_of_isMinuteChar ht, List.map_map]
  refine (List.map_congr_left fun c hc => ?_).trans (List.map_id t)
  rcases ht c hc with h | rfl | rfl
  · rw [Function.comp_apply, toUpper_of_isPlainDigit h, toLower_of_isPlainDigit h, id]
  · rfl
  · rfl

end

/-- What is left of a compact form in a size: the other letters have capitals that are in no unit of
    size. -/
theorem isMinuteChar_of_readSize_of_readCompact (hsize : readSize t = .ok n)
    (hcompact : Duration.readCompact t = .ok d) : ∀ c ∈ t, IsMinuteChar c := by
  obtain ⟨form, blanks, unit, hspells, -⟩ := exists_spells_of_readSize hsize
  have hother : ∀ c ∈ ['+', '-', 'n', 'u', 'µ', 'μ', 's', 'h'], ¬ Text.isBlank c ∧
      ¬ ∀ e ∈ Text.upperChar c,
        Text.isPlainDigit e ∨ e = '.' ∨ Text.isBlank e ∨ e ∈ unitLetters := by
    decide +kernel
  intro c hc
  by_contra hnot
  have hmem : c ∈ ['+', '-', 'n', 'u', 'µ', 'μ', 's', 'h'] := by
    have hform : c = '+' ∨ c = '-' ∨ Duration.IsCompactChar c :=
      (Numeral.mem_takeSign hc).imp_right
        (Or.imp_right (Duration.characters_of_readCompact hcompact c))
    simp only [IsMinuteChar, Duration.IsCompactChar, List.mem_cons, List.not_mem_nil] at hnot hform ⊢
    tauto
  obtain ⟨hblank, hbad⟩ := hother c hmem
  exact hbad fun e he => hspells.characters e
    (List.mem_flatMap_of_mem ((Text.mem_trim_iff hblank).mpr hc) he)

/-- The unit of a size in which every letter is an `M` is one `M` or none. -/
theorem eq_nil_or_eq_of_unitBits? {unit : Text} {bits : Nat} (hunit : unitBits? unit = some bits)
    (hletters : ∀ c ∈ unit, c = 'M') : unit = [] ∨ unit = ['M'] := by
  obtain ⟨letters, rfl | rfl, hcases⟩ := unitBits?_cases hunit
  · rcases hcases with ⟨rfl, -⟩ | ⟨letter, rfl, -⟩
    · exact Or.inl rfl
    · exact Or.inr (by rw [hletters letter List.mem_cons_self])
  · exact absurd (hletters 'B' (List.mem_append_right _ List.mem_cons_self)) (by decide)

/-- Of the characters of minutes a size has neither blanks nor another unit than `M`. -/
theorem SizeForm.Spells.tail_of_characters {form : SizeForm} {blanks unit : Text}
    (hspells : Spells t form blanks unit)
    (hchars : ∀ c ∈ t, Text.isPlainDigit c ∨ c = '.' ∨ c = 'M') :
    blanks = [] ∧ (unit = [] ∨ unit = ['M']) := by
  have htail : ∀ c ∈ blanks ++ unit, Text.isPlainDigit c ∨ c = '.' ∨ c = 'M' :=
    fun c hc => hchars c (hspells.text_eq ▸ List.mem_append_right _ hc)
  obtain ⟨hblanks, hunit⟩ := List.forall_mem_append.mp htail
  constructor
  · refine List.eq_nil_iff_forall_not_mem.mpr fun c hc => ?_
    have hblank := hspells.blanks c hc
    rcases hblanks c hc with h | rfl | rfl
    · exact Text.not_isBlank_of_isPlainDigit h hblank
    · exact absurd hblank (by decide)
    · exact absurd hblank (by decide)
  · refine eq_nil_or_eq_of_unitBits? hspells.unit fun c hc => ?_
    have hletter : ∀ c ∈ unitLetters, ¬ Text.isPlainDigit c ∧ c ≠ '.' := by decide
    obtain ⟨hdigit, hpoint⟩ := hletter c (characters_of_unitBits? hspells.unit c hc)
    exact ((hunit c hc).resolve_left hdigit).resolve_left hpoint

/-- A size that is a compact duration is a plain number or a number of minutes. -/
theorem isPlain_or_isMinutes (hsize : readSize t = .ok n)
    (hcompact : Duration.readCompact t = .ok d) : Numeral.isPlain t ∨ IsMinutes t := by
  have hchars := isMinuteChar_of_readSize_of_readCompact hsize hcompact
  obtain ⟨form, blanks, unit, hspells, -⟩ := exists_spells_of_readSize hsize
  rw [trim_eq_of_isMinuteChar hchars] at hspells
  have hplain := hspells.parts.isPlain
  have hnumber := hspells.parts.map_eq (fun _ => toLower_of_isPlainDigit) rfl
  -- The text is its capitals in small letters again.
  have hlower := map_toLower_upper hchars
  obtain ⟨hblanks, hunit⟩ :=
    hspells.tail_of_characters (characters_upper_of_isMinuteChar hchars)
  rw [hspells.text_eq, List.map_append, hnumber, hblanks, List.nil_append] at hlower
  rcases hunit with hnone | hM
  · rw [hnone, List.map_nil, List.append_nil] at hlower
    exact Or.inl (hlower ▸ hplain)
  · rw [hM] at hlower
    exact Or.inr ⟨_, hplain, hlower.symm⟩

/-- Minutes are in range only if their number of nanoseconds is. -/
theorem isFinite_of_readCompact {whole fraction : Text} (hparts : Numeral.Parts whole fraction)
    (hcompact : Duration.readCompact (Numeral.plainText whole fraction ++ ['m']) = .ok d) :
    ((Numeral.DecimalForm.value false ⟨whole, fraction, 0⟩).mul
      (Binary64.ofRatio (60 * 1000000000) 1)).isFinite := by
  generalize hvalue : Numeral.DecimalForm.value false ⟨whole, fraction, 0⟩ = number
  have hsign := hparts.takeSign_eq ['m']
  have hnumber : Duration.takeNumber (Numeral.plainText whole fraction ++ ['m']) =
      some (number, ['m']) :=
    hvalue ▸ hparts.takeNumber_eq fun _ hc => Option.some.inj hc ▸ by decide
  have hm : 'm' ∈ Numeral.plainText whole fraction ++ ['m'] :=
    List.mem_append_right _ List.mem_cons_self
  have hpart : Duration.takePart? (Numeral.plainText whole fraction ++ ['m']) =
      some (number.mul (Binary64.ofRatio (60 * 1000000000) 1), []) := by
    rw [Duration.takePart?, hnumber]
    rfl
  have hsum := Duration.sumParts_of_takePart? (List.ne_nil_of_mem hm) hpart (Binary64.zero false)
  have hzero : Numeral.plainText whole fraction ++ ['m'] ≠ ['0'] := by
    intro heq
    rw [heq] at hm
    exact absurd hm (by decide)
  simp only [Duration.readCompact, hsign, if_neg hzero, hsum] at hcompact
  split at hcompact
  · cases hcompact
  · split at hcompact
    · cases hcompact
    · rename_i hnanos
      exact (Binary64.isFinite_of_isFinite_add (Duration.isFinite_of_ofNanos? hnanos)).2

/-- A number of minutes in range is a size in range, since a minute has more nanoseconds than a
    mebibyte has bytes. -/
theorem exists_readSize_of_isMinutes (ht : IsMinutes t) (hcompact : Duration.readCompact t = .ok d) :
    ∃ n, readSize t = .ok n := by
  have hchars := ht.isMinuteChar
  have htrim := trim_eq_of_isMinuteChar hchars
  have hupper := upper_eq_of_isMinuteChar hchars
  obtain ⟨number, hnumber, rfl⟩ := ht
  obtain ⟨whole, fraction, hparts, rfl⟩ := Numeral.exists_parts_of_isPlain hnumber
  have hproduct := Binary64.isFinite_mul_ofRatio_of_le (m := Nat.pow 2 20) (by decide)
    (isFinite_of_readCompact hparts hcompact)
  have hM : ['m'].map Char.toUpper = ['M'] := rfl
  rw [List.map_append, hM, hparts.map_eq (fun _ => toUpper_of_isPlainDigit) rfl] at hupper
  have hform : SizeForm.read? (Numeral.plainText whole fraction ++ ['M']) =
      some ⟨whole, fraction, 20⟩ :=
    SizeForm.read?_plainText hparts fun _ hc => Option.some.inj hc ▸ by decide
  obtain ⟨bytes, hbytes⟩ := Binary64.exists_truncate?_of_isFinite hproduct
  have hsize : (SizeForm.product ⟨whole, fraction, 20⟩).truncate? = some bytes := hbytes
  refine ⟨bytes, ?_⟩
  rw [readSize, htrim, hupper, hform]
  simp only [hsize]

end Quantity

end RecordFilter
