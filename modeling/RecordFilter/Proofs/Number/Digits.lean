import Mathlib.Algebra.Group.Nat.Defs
import Mathlib.Data.List.TakeDrop
import Mathlib.Data.List.TakeWhile
import RecordFilter.Number.Numeral
import RecordFilter.Quantity.Number
import RecordFilter.Text.Blank

/-!
Digits: the digits of a number are read as that number, also behind zeros.
-/

namespace RecordFilter

namespace Text

theorem isPlainDigit_iff {c : Char} : isPlainDigit c ↔ 48 ≤ c.toNat ∧ c.toNat ≤ 57 := by
  simp only [isPlainDigit, Bool.and_eq_true, decide_eq_true_eq, Char.le_def,
    UInt32.le_iff_toNat_le]
  rfl

theorem not_isBlank_of_isPlainDigit {c : Char} (hc : isPlainDigit c) : ¬ isBlank c := by
  rw [isPlainDigit_iff] at hc
  simp only [isBlank, Bool.or_eq_true, Bool.and_eq_true, decide_eq_true_eq, beq_iff_eq]
  omega

/-- The characters of numbers and of clock forms are no blanks. -/
theorem not_isBlank_of_clock {c : Char} (hc : isPlainDigit c ∨ c = ':' ∨ c = '-') : ¬ isBlank c := by
  rcases hc with hdigit | rfl | rfl
  · exact not_isBlank_of_isPlainDigit hdigit
  · decide
  · decide

/-- The characters are plain digits, and there is one at least. -/
structure Digits (t : Text) : Prop where
  ne_nil : t ≠ []
  plain : ∀ c ∈ t, isPlainDigit c

theorem digits_ofNat (n : Nat) : Digits (ofNat n) := by
  refine ⟨Nat.toDigits_ne_nil, ?_⟩
  intro c hc
  have hdigit : c.isDigit := Nat.isDigit_of_mem_toDigits (by decide) (by decide) hc
  simpa [Char.isDigit, isPlainDigit, Char.le_def] using hdigit

theorem ofInt_ne_nil (i : Int) : ofInt i ≠ [] := by
  rw [ofInt]
  split
  · exact List.cons_ne_nil _ _
  · exact (digits_ofNat i.natAbs).ne_nil

theorem isPlainDigit_or_eq_of_mem_ofInt {i : Int} {c : Char} (hc : c ∈ ofInt i) :
    isPlainDigit c ∨ c = '-' := by
  have hdigits := digits_ofNat i.natAbs
  rw [ofInt] at hc
  split at hc
  · rcases List.mem_cons.mp hc with rfl | hc
    · exact Or.inr rfl
    · exact Or.inl (hdigits.plain c hc)
  · exact Or.inl (hdigits.plain c hc)

/-- The digits of an integer have no other character than a hyphen. -/
theorem ne_ofInt_of_mem {t : Text} {c : Char} (hmem : c ∈ t) (hc : ¬ isPlainDigit c) (hne : c ≠ '-')
    (i : Int) : t ≠ ofInt i := by
  rintro rfl
  exact (isPlainDigit_or_eq_of_mem_ofInt hmem).elim hc hne

/-- The hyphen of an integer is in front of its digits. -/
theorem append_hyphen_ne_ofInt {t rest : Text} (ht : Digits t) (i : Int) :
    t ++ '-' :: rest ≠ ofInt i := by
  have hhyphen : ¬ isPlainDigit '-' := by decide
  intro heq
  rw [ofInt] at heq
  split at heq
  · obtain ⟨c, t, rfl⟩ := List.exists_cons_of_ne_nil ht.ne_nil
    rw [List.cons_append] at heq
    have hdigit := ht.plain c List.mem_cons_self
    rw [(List.cons.inj heq).1] at hdigit
    exact hhyphen hdigit
  · have hmem : '-' ∈ ofNat i.natAbs := heq ▸ List.mem_append_right t List.mem_cons_self
    exact hhyphen ((digits_ofNat i.natAbs).plain '-' hmem)

theorem digits_padStart (width : Nat) {t : Text} (ht : Digits t) : Digits (padStart width '0' t) := by
  refine ⟨by simp [padStart, ht.ne_nil], ?_⟩
  intro c hc
  rw [padStart, List.mem_append] at hc
  rcases hc with hc | hc
  · rw [List.eq_of_mem_replicate hc]
    decide
  · exact ht.plain c hc

theorem ofDigits_ofNat (n : Nat) : ofDigits (ofNat n) = n :=
  Nat.ofDigitChars_ten_toDigits

/-- Digits in front count for as many powers of ten as there are digits behind them. -/
theorem ofDigits_append (a b : Text) :
    ofDigits (a ++ b) = ofDigits a * 10 ^ b.length + ofDigits b := by
  change Nat.ofDigitChars 10 (a ++ b) 0 = Nat.ofDigitChars 10 a 0 * _ + Nat.ofDigitChars 10 b 0
  rw [Nat.ofDigitChars_append, Nat.ofDigitChars_eq_ofDigitChars_zero, Nat.mul_comm]

theorem ofDigits_replicate (n : Nat) : ofDigits (List.replicate n '0') = 0 := by
  change Nat.ofDigitChars 10 (List.replicate n '0') 0 = 0
  rw [Nat.ofDigitChars_replicate_zero, Nat.mul_zero]

theorem ofDigits_padStart (width : Nat) (t : Text) : ofDigits (padStart width '0' t) = ofDigits t := by
  rw [padStart, ofDigits_append, ofDigits_replicate, Nat.zero_mul, Nat.zero_add]

theorem length_ofNat_le_iff {n k : Nat} (hk : 0 < k) : (ofNat n).length ≤ k ↔ n < 10 ^ k :=
  Nat.length_toDigits_le_iff (by decide) hk

/-- A row of digits stands for less than the power of ten with as many zeros. -/
theorem ofDigits_lt {t : Text} (ht : ∀ c ∈ t, isPlainDigit c) : ofDigits t < 10 ^ t.length := by
  induction t with
  | nil => decide
  | cons c t ih =>
    obtain ⟨_, hdigit⟩ := isPlainDigit_iff.mp (ht c List.mem_cons_self)
    have hrest := ih fun d hd => ht d (List.mem_cons_of_mem _ hd)
    have hsplit : ofDigits (c :: t) = ofDigits [c] * 10 ^ t.length + ofDigits t :=
      ofDigits_append [c] t
    have hvalue : ofDigits [c] ≤ 9 := by
      change 10 * 0 + (c.toNat - 48) ≤ 9
      omega
    have hfirst := Nat.mul_le_mul_right (10 ^ t.length) hvalue
    rw [hsplit, List.length_cons, Nat.pow_succ]
    omega

/-- Only the digits of zero begin with a zero. -/
theorem head?_ofNat_ne {n : Nat} (hn : n ≠ 0) : (ofNat n).head? ≠ some '0' := by
  intro hhead
  cases hdigits : ofNat n with
  | nil => exact (digits_ofNat n).ne_nil hdigits
  | cons c t =>
    rw [hdigits] at hhead
    cases hhead
    have hplain := (digits_ofNat n).plain
    rw [hdigits] at hplain
    have hsplit : ofDigits ('0' :: t) = ofDigits ['0'] * 10 ^ t.length + ofDigits t :=
      ofDigits_append ['0'] t
    have hzero : ofDigits ['0'] = 0 := ofDigits_replicate 1
    have hvalue : n = ofDigits t := by
      rw [← ofDigits_ofNat n, hdigits, hsplit, hzero, Nat.zero_mul, Nat.zero_add]
    have hlt : n < 10 ^ t.length := by
      rw [hvalue]
      exact ofDigits_lt fun c hc => hplain c (List.mem_cons_of_mem _ hc)
    have hpos : 0 < t.length := by
      rcases Nat.eq_zero_or_pos t.length with hzero | hpos
      · rw [hzero] at hlt
        omega
      · exact hpos
    have hlength := (length_ofNat_le_iff hpos).mpr hlt
    rw [hdigits, List.length_cons] at hlength
    omega

/-- A character outside of `0` to `9` is in no row of digits. -/
theorem Digits.not_mem {t : Text} (ht : Digits t) {c : Char} (hc : ¬ isPlainDigit c) : c ∉ t :=
  fun hmem => hc (ht.plain c hmem)

end Text

namespace Numeral

theorem isDigits_eq_true {t : Text} (ht : Text.Digits t) : isDigits t = true := by
  simp [isDigits, ht.ne_nil, List.all_eq_true.mpr ht.plain]

theorem isPlainDigit_of_read? {t : Text} {form : IntegerForm}
    (hread : IntegerForm.read? t = some form) : ∀ c ∈ form.digits, Text.isPlainDigit c := by
  simp only [IntegerForm.read?] at hread
  split at hread
  · rename_i hdigits
    rw [← Option.some.inj hread]
    rw [isDigits, Bool.and_eq_true, List.all_eq_true] at hdigits
    exact hdigits.2
  · cases hread

theorem takeSign_of_digits {t rest : Text} (ht : Text.Digits t) :
    takeSign (t ++ rest) = (false, t ++ rest) := by
  obtain ⟨c, t, rfl⟩ := List.exists_cons_of_ne_nil ht.ne_nil
  have hplus : c ≠ '+' := by
    rintro rfl
    exact absurd (ht.plain '+' List.mem_cons_self) (by decide)
  have hminus : c ≠ '-' := by
    rintro rfl
    exact absurd (ht.plain '-' List.mem_cons_self) (by decide)
  rw [List.cons_append]
  unfold takeSign
  split
  · rename_i heq
    exact absurd (List.cons.inj heq).1 hplus
  · rename_i heq
    exact absurd (List.cons.inj heq).1 hminus
  · rfl

/-- What is not the sign is behind it. -/
theorem mem_takeSign {t : Text} {c : Char} (hc : c ∈ t) :
    c = '+' ∨ c = '-' ∨ c ∈ (takeSign t).2 := by
  unfold takeSign
  split
  · rcases List.mem_cons.mp hc with rfl | hc
    · exact Or.inl rfl
    · exact Or.inr (Or.inr hc)
  · rcases List.mem_cons.mp hc with rfl | hc
    · exact Or.inr (Or.inl rfl)
    · exact Or.inr (Or.inr hc)
  · exact Or.inr (Or.inr hc)

theorem isSuffix_takeSign (t : Text) : (takeSign t).2 <:+ t := by
  unfold takeSign
  split
  · exact List.suffix_cons _ _
  · exact List.suffix_cons _ _
  · exact List.suffix_refl _

theorem takeSign_ofInt (i : Int) :
    takeSign (Text.ofInt i) = (decide (i < 0), Text.ofNat i.natAbs) := by
  by_cases hneg : i < 0
  · simp [Text.ofInt, hneg, takeSign]
  · have hsign : takeSign (Text.ofNat i.natAbs ++ []) = _ :=
      takeSign_of_digits (Text.digits_ofNat i.natAbs)
    simpa [Text.ofInt, hneg] using hsign

theorem eq_append_takeDigits (t : Text) : t = (takeDigits t).1 ++ (takeDigits t).2 := by
  rw [takeDigits, List.span_eq_takeWhile_dropWhile]
  exact List.takeWhile_append_dropWhile.symm

theorem isSuffix_takeDigits (t : Text) : (takeDigits t).2 <:+ t :=
  ⟨_, (eq_append_takeDigits t).symm⟩

theorem isPlainDigit_of_mem_takeDigits {t : Text} :
    ∀ c ∈ (takeDigits t).1, Text.isPlainDigit c := by
  rw [takeDigits, List.span_eq_takeWhile_dropWhile]
  exact fun c hc => List.mem_takeWhile_imp hc

/-- A row of digits ends where something begins that does not begin with a digit. -/
theorem takeDigits_append {t rest : Text} (ht : ∀ c ∈ t, Text.isPlainDigit c)
    (hrest : ∀ c, rest.head? = some c → ¬ Text.isPlainDigit c) :
    takeDigits (t ++ rest) = (t, rest) := by
  rw [takeDigits, List.span_eq_takeWhile_dropWhile, List.takeWhile_append_of_pos ht,
    List.dropWhile_append_of_pos ht]
  cases rest with
  | nil => simp
  | cons c rest =>
    have hc := hrest c rfl
    rw [List.takeWhile_cons_of_neg hc, List.dropWhile_cons_of_neg hc, List.append_nil]

/-- A row of digits ends before the first other character. -/
theorem takeDigits_append_cons {t rest : Text} {c : Char} (ht : Text.Digits t)
    (hc : ¬ Text.isPlainDigit c) : takeDigits (t ++ c :: rest) = (t, c :: rest) :=
  takeDigits_append ht.plain fun _ hd => Option.some.inj hd ▸ hc

theorem takeDigits_of_digits {t : Text} (ht : Text.Digits t) : takeDigits t = (t, []) := by
  have htake : takeDigits (t ++ []) = (t, []) := takeDigits_append ht.plain nofun
  rwa [List.append_nil] at htake

/-- The form of an integer's digits. -/
theorem read?_ofInt (i : Int) :
    IntegerForm.read? (Text.ofInt i) = some ⟨i < 0, Text.ofNat i.natAbs⟩ := by
  simp only [IntegerForm.read?, takeSign_ofInt, isDigits_eq_true (Text.digits_ofNat i.natAbs),
    if_true]

theorem value_ofInt (i : Int) :
    IntegerForm.value ⟨i < 0, Text.ofNat i.natAbs⟩ = i := by
  simp only [IntegerForm.value, Text.ofDigits_ofNat, decide_eq_true_eq]
  split <;> omega

/-- Different integers have different digits. -/
theorem ofInt_inj {i j : Int} (heq : Text.ofInt i = Text.ofInt j) : i = j := by
  have hforms := (read?_ofInt i).symm.trans ((congrArg IntegerForm.read? heq).trans (read?_ofInt j))
  rw [← value_ofInt i, ← value_ofInt j, Option.some.inj hforms]

end Numeral

namespace Quantity

/-- A row of digits that is not too long is read as its number. -/
theorem readInteger_of_digits {t : Text} (ht : Text.Digits t) (hlength : t.length ≤ digitLimit) :
    readInteger t = .ok (Text.ofDigits t) := by
  have hsign : Numeral.takeSign t = (false, t) := by
    rw [← List.append_nil t]
    exact Numeral.takeSign_of_digits ht
  simp [readInteger, Numeral.IntegerForm.read?, hsign, Numeral.isDigits_eq_true ht, hlength,
    Numeral.IntegerForm.value]

/-- The digits of an integer that is not too long are read as the integer. -/
theorem readInteger_ofInt {i : Int} (hi : i.natAbs < 10 ^ digitLimit) :
    readInteger (Text.ofInt i) = .ok i := by
  have hdigits := Text.digits_ofNat i.natAbs
  have hlength : (Text.ofNat i.natAbs).length ≤ digitLimit :=
    (Text.length_ofNat_le_iff (by decide)).mpr hi
  have hform := Numeral.read?_ofInt i
  have hvalue := Numeral.value_ofInt i
  simp only [readInteger, hform, hlength, if_true, hvalue]

end Quantity

end RecordFilter
