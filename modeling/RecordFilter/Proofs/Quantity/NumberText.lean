import RecordFilter.Proofs.Number.FloatText
import RecordFilter.Proofs.Quantity.Clock

/-!
What else a number is read as.

The text of a number is a size in bytes too if it is written plainly, with digits and a point at
most (`Numeral.isPlain`): of the number only its whole part counts then. It is no duration, unless
it is a zero without a point.
-/

namespace RecordFilter

theorem toNat_toUpper (c : Char) :
    c.toUpper.toNat = if 97 ≤ c.toNat ∧ c.toNat ≤ 122 then c.toNat - 32 else c.toNat := by
  have hlow : 'a'.val ≤ c.val ↔ 97 ≤ c.toNat := UInt32.le_iff_toNat_le
  have hhigh : c.val ≤ 'z'.val ↔ c.toNat ≤ 122 := UInt32.le_iff_toNat_le
  by_cases hsmall : 97 ≤ c.toNat ∧ c.toNat ≤ 122
  · have hcapital : c.toUpper = _ := dif_pos ⟨hlow.mpr hsmall.1, hhigh.mpr hsmall.2⟩
    rw [if_pos hsmall, hcapital]
    have hshift : ('A'.val - 'a'.val).toNat = 2 ^ 32 - 32 := rfl
    change (c.val + ('A'.val - 'a'.val)).toNat = c.val.toNat - 32
    change 97 ≤ c.val.toNat ∧ c.val.toNat ≤ 122 at hsmall
    rw [UInt32.toNat_add, hshift]
    omega
  · have hsame : c.toUpper = c := dif_neg fun h => hsmall ⟨hlow.mp h.1, hhigh.mp h.2⟩
    rw [if_neg hsmall, hsame]

theorem toNat_toLower (c : Char) :
    c.toLower.toNat = if 65 ≤ c.toNat ∧ c.toNat ≤ 90 then c.toNat + 32 else c.toNat := by
  have hlow : c.val ≥ 'A'.val ↔ 65 ≤ c.toNat := UInt32.le_iff_toNat_le
  have hhigh : c.val ≤ 'Z'.val ↔ c.toNat ≤ 90 := UInt32.le_iff_toNat_le
  by_cases hcapital : 65 ≤ c.toNat ∧ c.toNat ≤ 90
  · have hsmall : c.toLower = _ := dif_pos ⟨hlow.mpr hcapital.1, hhigh.mpr hcapital.2⟩
    rw [if_pos hcapital, hsmall]
    have hshift : ('a'.val - 'A'.val).toNat = 32 := rfl
    change (c.val + ('a'.val - 'A'.val)).toNat = c.val.toNat + 32
    change 65 ≤ c.val.toNat ∧ c.val.toNat ≤ 90 at hcapital
    rw [UInt32.toNat_add, hshift]
    omega
  · have hsame : c.toLower = c := dif_neg fun h => hcapital ⟨hlow.mp h.1, hhigh.mp h.2⟩
    rw [if_neg hcapital, hsame]

theorem toUpper_of_isPlainDigit {c : Char} (hc : Text.isPlainDigit c) : c.toUpper = c := by
  have hrange := Text.isPlainDigit_iff.mp hc
  exact Char.toNat_inj.mp (by rw [toNat_toUpper, if_neg (by omega)])

theorem toLower_of_isPlainDigit {c : Char} (hc : Text.isPlainDigit c) : c.toLower = c := by
  have hrange := Text.isPlainDigit_iff.mp hc
  exact Char.toNat_inj.mp (by rw [toNat_toLower, if_neg (by omega)])

theorem Text.upper_eq_map {t : Text} (ht : ∀ c ∈ t, c.toNat < 128) :
    Text.upper t = t.map Char.toUpper := by
  have hchar : ∀ c ∈ t, Text.upperChar c = [c.toUpper] := by
    intro c hc
    rw [Text.upperChar, if_pos (ht c hc)]
  rw [Text.upper, List.flatMap_def, List.map_congr_left hchar, ← List.flatMap_def,
    ← List.map_eq_flatMap]

/-- Nothing that begins with a character of no unit is a unit. -/
theorem Quantity.unitBits?_eq_none {c : Char} {rest : Text} (hletter : sizeBits? c = none)
    (hB : c ≠ 'B') : unitBits? (c :: rest) = none := by
  have hunit : ∃ tail, unitLetter (c :: rest) = c :: tail := by
    unfold unitLetter
    split
    · rename_i hlast
      cases rest with
      | nil => exact absurd (Option.some.inj hlast) hB
      | cons d rest => exact ⟨(d :: rest).dropLast, rfl⟩
    · exact ⟨rest, rfl⟩
  obtain ⟨tail, htail⟩ := hunit
  rw [unitBits?, htail]
  cases tail with
  | nil => exact hletter
  | cons d tail => rfl

namespace Numeral

variable {t tail : Text} {form : DecimalForm} {point : Bool} {x : Binary64}

/-- Digits, or digits on both sides of a point. -/
def isPlain (t : Text) : Bool :=
  let (whole, rest) := takeDigits t
  !whole.isEmpty &&
    match rest with
    | [] => true
    | '.' :: fraction => isDigits fraction
    | _ => false

theorem Spells.isPlain_eq (ht : Spells t form point tail) :
    isPlain t = (tail.isEmpty && !form.whole.isEmpty && (!point || !form.fraction.isEmpty)) := by
  have htail := head?_of_readExponent? ht.exponent
  have hplaces : isDigits form.fraction = !form.fraction.isEmpty := by
    simp [isDigits, List.all_eq_true.mpr ht.fraction]
  cases point with
  | true =>
    simp only [isPlain, ht.takeDigits_eq, if_true, List.cons_append]
    cases tail with
    | nil => simp [hplaces]
    | cons c tail =>
      have hdigits : isDigits (form.fraction ++ c :: tail) = false := by
        simp [isDigits, (htail c rfl).1]
      simp [hdigits]
  | false =>
    simp only [isPlain, ht.takeDigits_eq, Bool.false_eq_true, if_false, List.nil_append]
    rcases readExponent?_cases ht.exponent with ⟨rfl, -⟩ | ⟨mark, rest, rfl, rfl | rfl, -⟩ <;> simp

/-- The characters of numbers: signs, points, digits and letters. -/
def IsNumberChar (c : Char) : Prop :=
  43 ≤ c.toNat ∧ c.toNat ≤ 122 ∧ c.toNat ≠ 58

theorem isNumberChar_of_digit {c : Char} (hc : Text.isPlainDigit c) : IsNumberChar c := by
  rw [Text.isPlainDigit_iff] at hc
  unfold IsNumberChar
  omega

theorem isNumberChar_of_takeSign (hrest : ∀ c ∈ (takeSign t).2, IsNumberChar c) :
    ∀ c ∈ t, IsNumberChar c := by
  intro c hc
  rcases mem_takeSign hc with rfl | rfl | hc
  · unfold IsNumberChar
    decide
  · unfold IsNumberChar
    decide
  · exact hrest c hc

theorem Spells.isNumberChar (ht : Spells t form point tail) : ∀ c ∈ t, IsNumberChar c := by
  have htail : ∀ c ∈ tail, IsNumberChar c := by
    rcases readExponent?_cases ht.exponent with ⟨rfl, -⟩ | ⟨mark, rest, rfl, hmark, hdigits⟩
    · nofun
    · rw [isDigits, Bool.and_eq_true, List.all_eq_true] at hdigits
      refine List.forall_mem_cons.mpr ⟨?_, isNumberChar_of_takeSign fun c hc =>
        isNumberChar_of_digit (hdigits.2 c hc)⟩
      rcases hmark with rfl | rfl <;> unfold IsNumberChar <;> decide
  intro c hc
  rw [ht.text_eq, List.mem_append, List.mem_append] at hc
  rcases hc with hc | hc | hc
  · exact isNumberChar_of_digit (ht.whole c hc)
  · cases point with
    | true =>
      rcases List.mem_cons.mp hc with rfl | hc
      · unfold IsNumberChar
        decide
      · exact isNumberChar_of_digit (ht.fraction c hc)
    | false => cases hc
  · exact htail c hc

/-- The characters of a name are letters. -/
theorem letters_of_named? {negative : Bool} (hread : named? negative t = some x) :
    t ≠ [] ∧ ∀ c ∈ t, 65 ≤ c.toNat ∧ c.toNat ≤ 122 := by
  have hname : t.map Char.toLower ∈ ["inf".toList, "infinity".toList, "nan".toList] := by
    unfold named? at hread
    dsimp only at hread
    split at hread
    · rename_i hinf
      rcases hinf with hinf | hinf <;> simp [hinf]
    · split at hread
      · rename_i hnan
        simp [hnan]
      · cases hread
  have hletters : ∀ name ∈ ["inf".toList, "infinity".toList, "nan".toList],
      name ≠ [] ∧ ∀ c ∈ name, 97 ≤ c.toNat ∧ c.toNat ≤ 122 := by
    decide
  obtain ⟨hne, hsmall⟩ := hletters _ hname
  refine ⟨fun hnil => hne (congrArg (List.map Char.toLower) hnil), fun c hc => ?_⟩
  have hlower := hsmall c.toLower (List.mem_map_of_mem hc)
  rw [toNat_toLower] at hlower
  split at hlower <;> omega

/-- What is read as a number is a sign, perhaps, and a decimal numeral or a name. -/
theorem readFloat?_cases (hread : readFloat? t = some x) :
    ∃ negative rest, takeSign t = (negative, rest) ∧
      ((∃ form point tail, Spells rest form point tail ∧ x = form.value negative) ∨
        named? negative rest = some x) := by
  refine ⟨(takeSign t).1, (takeSign t).2, rfl, ?_⟩
  simp only [readFloat?] at hread
  split at hread
  · rename_i form hform
    obtain ⟨point, tail, hspells⟩ := exists_spells_of_read? hform
    exact Or.inl ⟨form, point, tail, hspells, (Option.some.inj hread).symm⟩
  · exact Or.inr hread

theorem isNumberChar_of_readFloat? (hread : readFloat? t = some x) : ∀ c ∈ t, IsNumberChar c := by
  obtain ⟨negative, rest, hsign, ⟨form, point, tail, hspells, -⟩ | hnamed⟩ := readFloat?_cases hread
  · refine isNumberChar_of_takeSign ?_
    rw [hsign]
    exact hspells.isNumberChar
  · refine isNumberChar_of_takeSign fun c hc => ?_
    rw [hsign] at hc
    have := (letters_of_named? hnamed).2 c hc
    unfold IsNumberChar
    omega

theorem trim_eq_of_isNumberChar (ht : ∀ c ∈ t, IsNumberChar c) : Text.trim t = t := by
  refine Text.trim_eq_self_of_not_isBlank fun c hc => ?_
  obtain ⟨hlow, hhigh, -⟩ := ht c hc
  simp only [Text.isBlank, Bool.or_eq_true, Bool.and_eq_true, decide_eq_true_eq, beq_iff_eq]
  omega

theorem map_toUpper_of_digits {digits : Text} (hdigits : ∀ c ∈ digits, Text.isPlainDigit c) :
    digits.map Char.toUpper = digits :=
  (List.map_congr_left fun c hc => toUpper_of_isPlainDigit (hdigits c hc)).trans (List.map_id digits)

/-- Of a number in capitals only the mark of the exponent can differ. -/
theorem Spells.upper_eq (ht : Spells t form point tail) :
    Text.upper t =
      form.whole ++ ((if point then '.' :: form.fraction else []) ++ tail.map Char.toUpper) := by
  have hplain : ∀ c ∈ t, c.toNat < 128 :=
    fun c hc => Nat.lt_of_le_of_lt (ht.isNumberChar c hc).2.1 (by decide)
  have hpoint : (if point then '.' :: form.fraction else []).map Char.toUpper =
      if point then '.' :: form.fraction else [] := by
    cases point with
    | true =>
      rw [if_pos rfl, List.map_cons, map_toUpper_of_digits ht.fraction]
      rfl
    | false => rfl
  rw [Text.upper_eq_map hplain, ht.text_eq, List.map_append, List.map_append,
    map_toUpper_of_digits ht.whole, hpoint]

theorem capitals_of_readExponent? {exponent : Int} (hread : readExponent? tail = some exponent) :
    tail = [] ∨ tail ≠ [] ∧ ∃ rest, tail.map Char.toUpper = 'E' :: rest := by
  rcases readExponent?_cases hread with ⟨rfl, -⟩ | ⟨mark, rest, rfl, rfl | rfl, -⟩
  · exact Or.inl rfl
  · exact Or.inr ⟨nofun, _, rfl⟩
  · exact Or.inr ⟨nofun, _, rfl⟩

/-- The exponent of a number begins with a letter that no unit of size has, so a number is the form
    of a size if it has no exponent, and digits on both sides of the point. -/
theorem Spells.sizeForm_read?_upper (ht : Spells t form point tail) :
    Quantity.SizeForm.read? (Text.upper t) =
      if isPlain t then some ⟨form.whole, form.fraction, 0⟩ else none := by
  have hunit (rest : Text) : Quantity.unitBits? (('E' :: rest).dropWhile Text.isBlank) = none := by
    rw [List.dropWhile_cons_of_neg (by decide)]
    exact Quantity.unitBits?_eq_none (by decide) (by decide)
  have hE {digits : Text} (hdigits : ∀ c ∈ digits, Text.isPlainDigit c) (rest : Text) :
      takeDigits (digits ++ 'E' :: rest) = (digits, 'E' :: rest) :=
    takeDigits_append hdigits fun _ hc => Option.some.inj hc ▸ by decide
  have hend {digits : Text} (hdigits : ∀ c ∈ digits, Text.isPlainDigit c) :
      takeDigits (digits ++ []) = (digits, []) :=
    takeDigits_append hdigits nofun
  rw [ht.upper_eq, ht.isPlain_eq]
  have hwhole := ht.whole
  have hfraction := ht.fraction
  have hcapitals := capitals_of_readExponent? ht.exponent
  cases point with
  | true =>
    have hpoint (rest : Text) : takeDigits (form.whole ++ '.' :: rest) = (form.whole, '.' :: rest) :=
      takeDigits_append hwhole fun _ hc => Option.some.inj hc ▸ by decide
    simp only [if_true, List.cons_append, Quantity.SizeForm.read?, hpoint]
    rcases hcapitals with rfl | ⟨htail, rest, hrest⟩
    · rw [List.map_nil, hend hfraction]
      cases form.whole <;> cases form.fraction <;>
        simp [Quantity.unitBits?, Quantity.unitLetter]
    · rw [hrest, hE hfraction]
      cases form.whole <;> cases form.fraction <;> simp [hunit, htail]
  | false =>
    rw [ht.pointless rfl]
    simp only [Bool.false_eq_true, if_false, List.nil_append, Quantity.SizeForm.read?]
    rcases hcapitals with rfl | ⟨htail, rest, hrest⟩
    · rw [List.map_nil, hend hwhole]
      cases form.whole <;> simp [Quantity.unitBits?, Quantity.unitLetter]
    · rw [hrest, hE hwhole]
      cases form.whole <;> simp [hunit, htail]

/-- Nothing that begins with another character than a digit is the form of a size. -/
theorem sizeForm_read?_cons {c : Char} (rest : Text) (hc : ¬ Text.isPlainDigit c) :
    Quantity.SizeForm.read? (c :: rest) = none := by
  have hdigits : takeDigits (c :: rest) = ([], c :: rest) :=
    takeDigits_append (t := []) nofun fun _ h => Option.some.inj h ▸ hc
  simp [Quantity.SizeForm.read?, hdigits]

theorem isPlain_cons {c : Char} (rest : Text) (hc : ¬ Text.isPlainDigit c) :
    isPlain (c :: rest) = false := by
  have hdigits : takeDigits (c :: rest) = ([], c :: rest) :=
    takeDigits_append (t := []) nofun fun _ h => Option.some.inj h ▸ hc
  simp [isPlain, hdigits]

/-- A sign is taken off, or there is none. -/
theorem takeSign_cases (t : Text) :
    takeSign t = (false, t) ∨ ∃ c rest, t = c :: rest ∧ (c = '+' ∨ c = '-') := by
  unfold takeSign
  split
  · exact Or.inr ⟨_, _, rfl, Or.inl rfl⟩
  · exact Or.inr ⟨_, _, rfl, Or.inr rfl⟩
  · exact Or.inl rfl

/-- A number is a decimal numeral without a sign, or it begins with a sign or a letter. -/
theorem spells_or_cons (hread : readFloat? t = some x) :
    (∃ form point tail, Spells t form point tail ∧ x = form.value false) ∨
      ∃ c rest, t = c :: rest ∧ ¬ Text.isPlainDigit c ∧ ¬ Text.isPlainDigit c.toUpper := by
  obtain ⟨negative, rest, hsign, hcases⟩ := readFloat?_cases hread
  rcases takeSign_cases t with hnone | ⟨c, rest, rfl, hc⟩
  · rw [hnone] at hsign
    obtain ⟨rfl, rfl⟩ := Prod.mk.inj hsign
    rcases hcases with hspells | hnamed
    · exact Or.inl hspells
    · obtain ⟨hne, hletters⟩ := letters_of_named? hnamed
      obtain ⟨c, rest, rfl⟩ := List.exists_cons_of_ne_nil hne
      have hc := hletters c List.mem_cons_self
      refine Or.inr ⟨c, rest, rfl, ?_, ?_⟩
      · rw [Text.isPlainDigit_iff]
        omega
      · rw [Text.isPlainDigit_iff, toNat_toUpper]
        split <;> omega
  · refine Or.inr ⟨c, rest, rfl, ?_⟩
    rcases hc with rfl | rfl <;> decide

/-- Of a number that is written plainly the whole part is its size in bytes. No other number is a
    size. -/
theorem readSize_of_readFloat? (hread : readFloat? t = some x) :
    (Quantity.readSize t).toOption = if isPlain t then x.truncate? else none := by
  have hchars := isNumberChar_of_readFloat? hread
  rw [Quantity.readSize, trim_eq_of_isNumberChar hchars]
  rcases spells_or_cons hread with ⟨form, point, tail, hspells, rfl⟩ | ⟨c, rest, rfl, hdigit, hupper⟩
  · rw [hspells.sizeForm_read?_upper]
    by_cases hplain : isPlain t
    · have htail : tail = [] := by
        rw [hspells.isPlain_eq, Bool.and_eq_true, Bool.and_eq_true, List.isEmpty_iff] at hplain
        exact hplain.1.1
      have hexponent : form.exponent = 0 := by
        rcases readExponent?_cases hspells.exponent with ⟨-, h⟩ | ⟨mark, rest, h, -⟩
        · exact h
        · exact absurd (h.symm.trans htail) (List.cons_ne_nil _ _)
      have hnumber : Quantity.SizeForm.number ⟨form.whole, form.fraction, 0⟩ = form.value false := by
        rw [Quantity.SizeForm.number, ← hexponent]
      have hproduct : Quantity.SizeForm.product ⟨form.whole, form.fraction, 0⟩ = form.value false := by
        rw [Quantity.SizeForm.product, hnumber]
        exact Binary64.mul_one _
      rw [if_pos hplain, if_pos hplain]
      dsimp only
      rw [hproduct]
      cases (form.value false).truncate? <;> rfl
    · rw [if_neg hplain, if_neg hplain]
      rfl
  · have hcapitals : Text.upper (c :: rest) = c.toUpper :: rest.map Char.toUpper :=
      Text.upper_eq_map fun d hd => Nat.lt_of_le_of_lt (hchars d hd).2.1 (by decide)
    rw [hcapitals, sizeForm_read?_cons _ hupper, isPlain_cons _ hdigit]
    rfl

theorem readCluster_of_readFloat? (hread : readFloat? t = some x) :
    (Duration.readCluster t).toOption = none := by
  have hchars := isNumberChar_of_readFloat? hread
  have hcolon : ':' ∉ t := fun hmem => (hchars ':' hmem).2.2 rfl
  simp [Duration.readCluster, trim_eq_of_isNumberChar hchars, hcolon, Except.toOption]

theorem Spells.text_ne_nil (ht : Spells t form point tail) : t ≠ [] := by
  rintro rfl
  have htext := ht.text_eq.symm
  rw [List.append_eq_nil_iff, List.append_eq_nil_iff] at htext
  obtain ⟨hwhole, hpoint, -⟩ := htext
  cases point with
  | true => exact absurd hpoint nofun
  | false => exact ht.ne_nil (by rw [hwhole, ht.pointless rfl, List.append_nil])

/-- What follows on the number of a decimal numeral is its exponent. -/
theorem Spells.takeNumber_eq (ht : Spells t form point tail) :
    ∃ number, Duration.takeNumber t = some (number, tail) := by
  have hempty : ¬ (form.whole.isEmpty && form.fraction.isEmpty) := by
    simpa using ht.ne_nil
  cases point with
  | true =>
    simp only [Duration.takeNumber, ht.takeDigits_eq, if_true, List.cons_append,
      ht.takeDigits_fraction, if_neg hempty]
    exact ⟨_, rfl⟩
  | false =>
    have hwhole := ht.whole_ne_nil
    simp only [Duration.takeNumber, ht.takeDigits_eq, Bool.false_eq_true, if_false,
      List.nil_append]
    rcases readExponent?_cases ht.exponent with ⟨rfl, -⟩ | ⟨mark, rest, rfl, rfl | rfl, -⟩ <;>
      exact ⟨_, if_neg (by simp [hwhole])⟩

/-- No unit of time follows on a number. -/
theorem takePart?_of_readFloat? {negative : Bool} {rest : Text}
    (hcases : (∃ form point tail, Spells rest form point tail ∧ x = form.value negative) ∨
      named? negative rest = some x) : rest ≠ [] ∧ Duration.takePart? rest = none := by
  rcases hcases with ⟨form, point, tail, hspells, -⟩ | hnamed
  · obtain ⟨number, hnumber⟩ := hspells.takeNumber_eq
    have hunit : Duration.takeUnit? tail = none := by
      rcases readExponent?_cases hspells.exponent with ⟨rfl, -⟩ | ⟨mark, rest, rfl, rfl | rfl, -⟩ <;>
        rfl
    exact ⟨hspells.text_ne_nil, by simp [Duration.takePart?, hnumber, hunit]⟩
  · obtain ⟨hne, hletters⟩ := letters_of_named? hnamed
    obtain ⟨c, rest, rfl⟩ := List.exists_cons_of_ne_nil hne
    have hc := hletters c List.mem_cons_self
    have hdigits : takeDigits (c :: rest) = ([], c :: rest) := by
      refine takeDigits_append (t := []) nofun fun _ h => Option.some.inj h ▸ ?_
      rw [Text.isPlainDigit_iff]
      omega
    have hpoint : c ≠ '.' := by
      rintro rfl
      exact absurd hc.1 (by decide)
    refine ⟨nofun, ?_⟩
    simp [Duration.takePart?, Duration.takeNumber, hdigits, hpoint]

/-- No number but a zero on its own is a compact duration. -/
theorem readCompact_toOption_of_readFloat? (hread : readFloat? t = some x)
    (hzero : (takeSign t).2 ≠ ['0']) : (Duration.readCompact t).toOption = none := by
  obtain ⟨negative, rest, hsign, hcases⟩ := readFloat?_cases hread
  obtain ⟨hne, hpart⟩ := takePart?_of_readFloat? hcases
  rw [hsign] at hzero
  obtain ⟨c, rest, rfl⟩ := List.exists_cons_of_ne_nil hne
  have hsum : Duration.sumParts (c :: rest).length (Binary64.zero false) (c :: rest) = none := by
    simp only [List.length_cons, Duration.sumParts, hpart]
    rfl
  simp only [Duration.readCompact, hsign]
  rw [if_neg hzero, hsum]
  rfl

/-- A number is a compact duration only if it is zero. -/
theorem readCompact_of_readFloat? (hread : readFloat? t = some x) :
    (Duration.readCompact t).toOption = none ∨
      (Duration.readCompact t).toOption = some Duration.zero ∧ x.quanta? = some 0 := by
  by_cases hzero : (takeSign t).2 = ['0']
  · have hvalue : readFloat? t = some (Binary64.zero (takeSign t).1) := by
      simp only [readFloat?, hzero]
      rfl
    rw [hread] at hvalue
    refine Or.inr ⟨by simp only [Duration.readCompact, hzero]; rfl, ?_⟩
    rw [Option.some.inj hvalue]
    cases (takeSign t).1 <;> rfl
  · exact Or.inl (readCompact_toOption_of_readFloat? hread hzero)

end Numeral

theorem Quantity.toOption_readFloat (t : Text) : (readFloat t).toOption = Numeral.readFloat? t := by
  rw [readFloat]
  split
  · rename_i hread
    rw [hread]
    rfl
  · rename_i hread
    rw [hread]
    split <;> rfl

end RecordFilter
