import RecordFilter.Proofs.Json.Data
import RecordFilter.Proofs.Number.FloatText
import RecordFilter.Proofs.Quantity.NumberText

/-!
Words, numbers and texts in JSON are read back from what is written of them, wherever something
follows that does not continue a number.
-/

namespace RecordFilter.Json

open Numeral

variable {rest : Text}

/-- The text does not begin with what could continue a number. -/
def EndsNumber (rest : Text) : Prop :=
  ∀ c, rest.head? = some c → ¬ Text.isPlainDigit c ∧ c ≠ '.' ∧ c ≠ 'e' ∧ c ≠ 'E'

theorem readWhole?_append {whole : Text} (hwhole : Text.Digits whole)
    (hunpadded : whole.head? = some '0' → whole = ['0'])
    (hrest : ∀ c, rest.head? = some c → ¬ Text.isPlainDigit c) :
    readWhole? (whole ++ rest) = some (whole, rest) := by
  obtain ⟨c, t, rfl⟩ := List.exists_cons_of_ne_nil hwhole.ne_nil
  by_cases hc : c = '0'
  · rw [hunpadded (congrArg some hc)]
    rfl
  · have htake := takeDigits_append hwhole.plain hrest
    rw [List.cons_append] at htake ⊢
    rw [readWhole?_cons_of_ne hc, htake]
    rfl

theorem readFraction_point {fraction : Text} (hfraction : Text.Digits fraction)
    (hrest : ∀ c, rest.head? = some c → ¬ Text.isPlainDigit c) :
    readFraction ('.' :: fraction ++ rest) = (fraction, rest) := by
  have htake := takeDigits_append hfraction.plain hrest
  simp [readFraction, htake, hfraction.ne_nil]

theorem readPower_of_endsNumber (hrest : EndsNumber rest) : readPower rest = (none, rest) := by
  cases rest with
  | nil => rfl
  | cons c rest =>
    obtain ⟨-, -, he, hE⟩ := hrest c rfl
    rw [readPower, if_neg (not_or.mpr ⟨he, hE⟩)]

theorem takeSign_append {t : Text} (ht : (takeSign t).2 ≠ []) (rest : Text) :
    takeSign (t ++ rest) = ((takeSign t).1, (takeSign t).2 ++ rest) := by
  cases t with
  | nil => exact absurd rfl ht
  | cons c t =>
    unfold takeSign
    split
    · rename_i heq
      obtain ⟨rfl, rfl⟩ := List.cons.inj heq
      rfl
    · rename_i heq
      obtain ⟨rfl, rfl⟩ := List.cons.inj heq
      rfl
    · rename_i hplus hminus
      split
      · rename_i heq
        exact absurd (by rw [(List.cons.inj heq).1]; rfl) (hplus _)
      · rename_i heq
        exact absurd (by rw [(List.cons.inj heq).1]; rfl) (hminus _)
      · rfl

theorem readPower_append {tail : Text} {exponent : Int}
    (hread : readExponent? tail = some exponent) (htail : tail ≠ []) (hrest : EndsNumber rest) :
    readPower (tail ++ rest) = (some exponent, rest) := by
  unfold readExponent? at hread
  split at hread
  · exact absurd rfl htail
  · rename_i mark digits
    split at hread
    · rename_i hmark
      dsimp only at hread
      split at hread
      · rename_i hdigits
        rw [isDigits, Bool.and_eq_true, List.all_eq_true] at hdigits
        have hne : (takeSign digits).2 ≠ [] := by simpa using hdigits.1
        have htake := takeDigits_append hdigits.2 fun c hc => (hrest c hc).1
        simp only [List.cons_append, readPower, if_pos hmark, takeSign_append hne, htake,
          List.isEmpty_iff, if_neg hne, ← Option.some.inj hread]
      · cases hread
    · cases hread

section

variable {t tail : Text} {d : Binary64.Decimal} {form : DecimalForm} {point : Bool}

/-- The text of a decimal is read as a floating point number. -/
theorem readUnsigned_of_denotes (ht : Binary64.Denotes t d form point tail) (negative : Bool)
    (hrest : EndsNumber rest) : readUnsigned negative (t ++ rest) =
      .ok (.float (Binary64.ofDecimal negative d.digits d.exponent), rest) := by
  have hfirst : Text.Digits form.whole := ⟨ht.first, ht.whole⟩
  have htail : ∀ c, (tail ++ rest).head? = some c → ¬ Text.isPlainDigit c ∧ c ≠ '.' := by
    intro c hc
    cases htail : tail with
    | nil =>
      rw [htail] at hc
      exact ⟨(hrest c hc).1, (hrest c hc).2.1⟩
    | cons mark digits =>
      rw [htail] at hc
      exact head?_of_readExponent? ht.exponent c (htail ▸ hc)
  have hpower : ∃ power, readPower (tail ++ rest) = (power, rest) ∧ power.getD 0 = form.exponent ∧
      (tail ≠ [] → power.isNone = false) := by
    have hexponent := ht.exponent
    by_cases hnil : tail = []
    · subst hnil
      exact ⟨none, readPower_of_endsNumber hrest, Option.some.inj hexponent, absurd rfl⟩
    · exact ⟨some form.exponent, readPower_append hexponent hnil hrest, rfl, fun _ => rfl⟩
  obtain ⟨power, hpower, hvalue, hsome⟩ := hpower
  rw [← ht.value negative, ht.text_eq, readUnsigned]
  cases point with
  | true =>
    have hfraction : Text.Digits form.fraction := ⟨ht.behind rfl, ht.fraction⟩
    have hwhole : readWhole? (form.whole ++ (('.' :: form.fraction) ++ tail) ++ rest) =
        some (form.whole, '.' :: form.fraction ++ (tail ++ rest)) := by
      rw [List.append_assoc, List.append_assoc]
      exact readWhole?_append hfirst ht.unpadded fun _ hc => Option.some.inj hc ▸ by decide
    have hplaces := readFraction_point hfraction fun c hc => (htail c hc).1
    simp only [if_true, hwhole, hplaces, hpower, hvalue, List.isEmpty_iff, hfraction.ne_nil,
      Bool.and_eq_true, false_and, if_false]
  | false =>
    have hnone : form.fraction = [] := ht.pointless rfl
    have hmarked : power.isNone = false := hsome (ht.marked.resolve_left Bool.false_ne_true)
    have hwhole : readWhole? (form.whole ++ ([] ++ tail) ++ rest) =
        some (form.whole, tail ++ rest) := by
      rw [List.nil_append, List.append_assoc]
      exact readWhole?_append hfirst ht.unpadded fun c hc => (htail c hc).1
    have hplaces : readFraction (tail ++ rest) = ([], tail ++ rest) :=
      readFraction_of_ne fun h => (htail '.' h).2 rfl
    have hform : form = ⟨form.whole, [], form.exponent⟩ := by
      rw [← hnone]
    simp only [Bool.false_eq_true, if_false, hwhole, hplaces, hpower, hmarked, Bool.and_false,
      hvalue, ← hform]

end

/-- The digits of a natural number that is not too long are read as an integer. -/
theorem readUnsigned_ofNat {n : Nat} (hn : n < 10 ^ digitLimit) (negative : Bool)
    (hrest : EndsNumber rest) : readUnsigned negative (Text.ofNat n ++ rest) =
      .ok (.integer (IntegerForm.value ⟨negative, Text.ofNat n⟩), rest) := by
  have hunpadded : (Text.ofNat n).head? = some '0' → Text.ofNat n = ['0'] := by
    intro hhead
    have hzero : n = 0 := by
      by_contra hne
      exact Text.head?_ofNat_ne hne hhead
    rw [hzero]
    rfl
  have hwhole : readWhole? (Text.ofNat n ++ rest) = some (Text.ofNat n, rest) :=
    readWhole?_append (Text.digits_ofNat n) hunpadded fun c hc => (hrest c hc).1
  have hfraction : readFraction rest = ([], rest) :=
    readFraction_of_ne fun h => (hrest '.' h).2.1 rfl
  have hlength : ¬ digitLimit < (Text.ofNat n).length :=
    Nat.not_lt.mpr ((Text.length_ofNat_le_iff (by decide)).mpr hn)
  simp only [readUnsigned, hwhole, hfraction, readPower_of_endsNumber hrest, List.isEmpty_nil,
    Option.isNone_none, Bool.and_self, if_true, if_neg hlength]

theorem exists_head?_of_digits {t : Text} (ht : Text.Digits t) (rest : Text) :
    ∃ c, (t ++ rest).head? = some c ∧ Text.isPlainDigit c := by
  obtain ⟨c, t, rfl⟩ := List.exists_cons_of_ne_nil ht.ne_nil
  exact ⟨c, rfl, ht.plain c List.mem_cons_self⟩

/-- A digit, or one behind a hyphen, begins no word. -/
theorem readPlain_of_head? {t : Text} (ht : ∃ c, t.head? = some c ∧ Text.isPlainDigit c)
    (negative : Bool) : readPlain (if negative then '-' :: t else t) = readUnsigned negative t := by
  obtain ⟨c, hhead, hdigit⟩ := ht
  obtain ⟨t, rfl⟩ := List.head?_eq_some_iff.mp hhead
  have hletter : ∀ d, ¬ Text.isPlainDigit d → d ≠ c := by
    rintro d hd rfl
    exact hd hdigit
  have hword : ∀ w ∈ words.map Prod.fst, ∃ d ∈ w, ¬ Text.isPlainDigit d ∧
      ([d] = w.take 1 ∧ d ≠ '-' ∨ ['-', d] = w.take 2) := by
    simp [words, Text.isPlainDigit]
  have hfind :
      words.find? (·.1.isPrefixOf (if negative then '-' :: c :: t else c :: t)) = none := by
    rw [List.find?_eq_none]
    intro w hw hbegins
    rw [List.isPrefixOf_iff_prefix] at hbegins
    obtain ⟨d, -, hd, ⟨hword, hsign⟩ | hword⟩ := hword w.1 (List.mem_map_of_mem hw)
    · have hfirst : [d] <+: if negative then '-' :: c :: t else c :: t :=
        hword ▸ (List.take_prefix 1 w.1).trans hbegins
      cases negative with
      | true => exact hsign (List.cons_prefix_cons.mp hfirst).1
      | false => exact hletter d hd (List.cons_prefix_cons.mp hfirst).1
    · have hfirst : ['-', d] <+: if negative then '-' :: c :: t else c :: t :=
        hword ▸ (List.take_prefix 2 w.1).trans hbegins
      cases negative with
      | true =>
        have hrest : [d] <+: c :: t := (List.cons_prefix_cons.mp hfirst).2
        exact hletter d hd (List.cons_prefix_cons.mp hrest).1
      | false => exact hletter '-' (by decide) (List.cons_prefix_cons.mp hfirst).1
  rw [readPlain_eq, hfind]
  cases negative with
  | true => rfl
  | false => exact readNumber_of_ne fun h => hletter '-' (by decide) (Option.some.inj h).symm

theorem readPlain_ofInt {i : Int} (hi : i.natAbs < 10 ^ digitLimit) (hrest : EndsNumber rest) :
    readPlain (Text.ofInt i ++ rest) = .ok (.integer i, rest) := by
  have hread := readPlain_of_head?
    (exists_head?_of_digits (Text.digits_ofNat i.natAbs) rest) (i < 0)
  rw [readUnsigned_ofNat hi _ hrest, value_ofInt] at hread
  rw [← hread, Text.ofInt]
  by_cases hneg : i < 0 <;> simp [hneg]

theorem readPlain_float {x : Binary64} (hx : x.isFinite) (hrest : EndsNumber rest) :
    readPlain (x.text ++ rest) = .ok (.float x, rest) := by
  cases x with
  | nan => cases hx
  | infinite negative => cases hx
  | finite negative quanta h =>
    obtain ⟨t, d, form, point, tail, hdenotes, hfinite⟩ := Binary64.exists_denotes_finite h
    obtain ⟨htext, hvalue⟩ := hfinite negative
    have hfirst := exists_head?_of_digits ⟨hdenotes.first, hdenotes.whole⟩
      ((if point then '.' :: form.fraction else []) ++ tail ++ rest)
    rw [← List.append_assoc, ← hdenotes.text_eq] at hfirst
    have hread := readPlain_of_head? hfirst negative
    rw [readUnsigned_of_denotes hdenotes negative hrest, hvalue] at hread
    rw [← hread, htext]
    cases negative <;> rfl

theorem charOf_toNat (c : Char) : charOf c.toNat = c := by
  exact dif_pos c.valid

theorem readCode_append {t : Text} {code : Nat} (hread : readCode t = .ok (code, []))
    (rest : Text) :
    readCode (t ++ rest) = .ok (code, rest) := by
  unfold readCode at hread
  split at hread
  · split at hread
    · rename_i ha hb hc hd
      obtain ⟨rfl, rfl⟩ := Prod.mk.inj (Except.ok.inj hread)
      simp [readCode, ha, hb, hc, hd]
    · cases hread
  · cases hread

/-- A control character is read back from its code, whatever follows. -/
theorem readUnicode_of_control {c : Char} (hc : c.toNat < 32) (rest : Text) :
    readUnicode (Text.hexDigits 4 c.toNat ++ rest) = .ok (c, rest) := by
  have hcodes : ∀ n < 32, readCode (Text.hexDigits 4 n) = .ok (n, []) := by decide
  rw [readUnicode_eq, readCode_append (hcodes c.toNat hc)]
  change charAt c.toNat rest = .ok (c, rest)
  have hsingle : ¬ (0xD800 ≤ c.toNat ∧ c.toNat < 0xDC00) := by omega
  by_cases hescape : ['\\', 'u'] <+: rest
  · obtain ⟨after, rfl⟩ := hescape
    rw [charAt_escape, if_neg hsingle, charOf_toNat]
  · rw [charAt_of_not_isPrefix hescape, charOf_toNat]

/-- What is written of a character: a backslash and another character, its code or itself. -/
theorem escape_cases (c : Char) :
    (∃ e, escaped? e = some c ∧ escape c = ['\\', e]) ∨
      c.toNat < 32 ∧ escape c = '\\' :: 'u' :: Text.hexDigits 4 c.toNat ∨
        c ≠ '"' ∧ c ≠ '\\' ∧ ¬ c.toNat < 32 ∧ escape c = [c] := by
  by_cases hmark : c = '"' ∨ c = '\\'
  · rcases hmark with rfl | rfl
    · exact Or.inl ⟨'"', rfl, rfl⟩
    · exact Or.inl ⟨'\\', rfl, rfl⟩
  by_cases hbreak : c = '\n' ∨ c = '\r' ∨ c = '\t' ∨ c = '\x0c' ∨ c = '\x08'
  · rcases hbreak with rfl | rfl | rfl | rfl | rfl
    · exact Or.inl ⟨'n', rfl, rfl⟩
    · exact Or.inl ⟨'r', rfl, rfl⟩
    · exact Or.inl ⟨'t', rfl, rfl⟩
    · exact Or.inl ⟨'f', rfl, rfl⟩
    · exact Or.inl ⟨'b', rfl, rfl⟩
  simp only [not_or] at hmark hbreak
  by_cases hcontrol : c.toNat < 32
  · exact Or.inr (Or.inl ⟨hcontrol, by simp [escape, hmark, hbreak, hcontrol]⟩)
  · exact Or.inr (Or.inr ⟨hmark.1, hmark.2, hcontrol, by simp [escape, hmark, hbreak, hcontrol]⟩)

/-- A character between quotes is read back from what is written of it. -/
theorem readText_escape (fuel : Nat) (read : Text) (c : Char) (rest : Text) :
    readText (fuel + 1) read (escape c ++ rest) = readText fuel (c :: read) rest := by
  have hbackslash : ∀ t, readText (fuel + 1) read ('\\' :: t) = readEscape fuel read t :=
    fun _ => rfl
  rcases escape_cases c with
    ⟨e, he, hescape⟩ | ⟨hcontrol, hescape⟩ | ⟨hquote, hmark, hcontrol, hescape⟩
  · have hne : e ≠ 'u' := by
      rintro rfl
      cases he
    rw [hescape, List.cons_append, List.singleton_append, hbackslash, readEscape_cons_of_ne hne, he]
  · rw [hescape, List.cons_append, List.cons_append, hbackslash]
    change (readUnicode (Text.hexDigits 4 c.toNat ++ rest) >>= _) = _
    rw [readUnicode_of_control hcontrol]
    rfl
  · rw [hescape, List.singleton_append, readText_succ_cons, if_neg hquote, if_neg hcontrol,
      if_neg hmark]

theorem escape_ne_nil (c : Char) : escape c ≠ [] := by
  rcases escape_cases c with ⟨e, -, hescape⟩ | ⟨-, hescape⟩ | ⟨-, -, -, hescape⟩ <;>
    rw [hescape] <;> exact List.cons_ne_nil _ _

theorem readText_flatMap_escape {t : Text} {fuel : Nat} (read rest : Text)
    (hfuel : t.length < fuel) :
    readText fuel read (t.flatMap escape ++ '"' :: rest) = .ok (read.reverse ++ t, rest) := by
  induction t generalizing fuel read with
  | nil =>
    obtain ⟨fuel, rfl⟩ := Nat.exists_eq_succ_of_ne_zero (Nat.ne_zero_of_lt hfuel)
    rw [List.append_nil]
    rfl
  | cons c t ih =>
    obtain ⟨fuel, rfl⟩ := Nat.exists_eq_succ_of_ne_zero (Nat.ne_zero_of_lt hfuel)
    rw [List.flatMap_cons, List.append_assoc, readText_escape,
      ih (c :: read) (Nat.lt_of_succ_lt_succ hfuel), List.reverse_cons, List.append_assoc,
      List.singleton_append]

/-- A text is read back from what is written of it. -/
theorem readString_flatMap_escape (t rest : Text) :
    readString (t.flatMap escape ++ '"' :: rest) = .ok (t, rest) := by
  have hlength : t.length ≤ (t.flatMap escape).length := by
    induction t with
    | nil => exact Nat.le_refl 0
    | cons c t ih =>
      have hpos := List.length_pos_iff.mpr (escape_ne_nil c)
      rw [List.flatMap_cons, List.length_append, List.length_cons]
      omega
  have hfuel : t.length < (t.flatMap escape ++ '"' :: rest).length + 1 := by
    rw [List.length_append]
    omega
  exact readText_flatMap_escape [] rest hfuel

end RecordFilter.Json
