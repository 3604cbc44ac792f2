import RecordFilter.Proofs.Number.Digits
import RecordFilter.Proofs.Number.Shortest
import RecordFilter.Value.Display

/-!
The text of a floating point number is read back as the number.

A decimal numeral is a form and two choices that its form leaves open (`Numeral.Spells`): whether
there is a point, and how the exponent is written. Whatever is read is spelled so, and what is
spelled so is read as its form.
-/

namespace RecordFilter

namespace Numeral

/-- The text is the form's digits before a point, the point and the digits after it if there is one,
    and what the exponent is written as. -/
structure Spells (t : Text) (form : DecimalForm) (point : Bool) (tail : Text) : Prop where
  text_eq : t = form.whole ++ ((if point then '.' :: form.fraction else []) ++ tail)
  whole : ∀ c ∈ form.whole, Text.isPlainDigit c
  fraction : ∀ c ∈ form.fraction, Text.isPlainDigit c
  pointless : point = false → form.fraction = []
  ne_nil : form.whole ++ form.fraction ≠ []
  exponent : readExponent? tail = some form.exponent

/-- An exponent is left out, or it begins with its mark. -/
theorem readExponent?_cases {tail : Text} {exponent : Int}
    (hread : readExponent? tail = some exponent) :
    tail = [] ∧ exponent = 0 ∨
      ∃ mark rest, tail = mark :: rest ∧ (mark = 'e' ∨ mark = 'E') ∧
        isDigits (takeSign rest).2 := by
  unfold readExponent? at hread
  split at hread
  · exact Or.inl ⟨rfl, (Option.some.inj hread).symm⟩
  · rename_i mark rest
    split at hread
    · rename_i hmark
      dsimp only at hread
      split at hread
      · rename_i hdigits
        exact Or.inr ⟨mark, rest, rfl, hmark, hdigits⟩
      · cases hread
    · cases hread

theorem not_isPlainDigit_of_mark {c : Char} (hc : c = 'e' ∨ c = 'E') : ¬ Text.isPlainDigit c := by
  rcases hc with rfl | rfl <;> decide

/-- Neither a digit nor a point is at the beginning of an exponent. -/
theorem head?_of_readExponent? {tail : Text} {exponent : Int}
    (hread : readExponent? tail = some exponent) (c : Char) (hc : tail.head? = some c) :
    ¬ Text.isPlainDigit c ∧ c ≠ '.' := by
  rcases readExponent?_cases hread with ⟨rfl, -⟩ | ⟨mark, rest, rfl, hmark, -⟩
  · cases hc
  · rw [← Option.some.inj hc]
    refine ⟨not_isPlainDigit_of_mark hmark, ?_⟩
    rcases hmark with rfl | rfl <;> decide

section

variable {t tail : Text} {form : DecimalForm} {point : Bool}

theorem Spells.takeDigits_eq (ht : Spells t form point tail) :
    takeDigits t = (form.whole, (if point then '.' :: form.fraction else []) ++ tail) := by
  rw [ht.text_eq]
  refine takeDigits_append ht.whole ?_
  cases point with
  | true => exact fun _ hc => Option.some.inj hc ▸ by decide
  | false => exact fun c hc => (head?_of_readExponent? ht.exponent c hc).1

theorem Spells.takeDigits_fraction (ht : Spells t form point tail) :
    takeDigits (form.fraction ++ tail) = (form.fraction, tail) :=
  takeDigits_append ht.fraction fun c hc => (head?_of_readExponent? ht.exponent c hc).1

theorem Spells.whole_ne_nil (ht : Spells t form false tail) : form.whole ≠ [] := by
  have hne := ht.ne_nil
  rwa [ht.pointless rfl, List.append_nil] at hne

theorem Spells.read?_eq (ht : Spells t form point tail) : DecimalForm.read? t = some form := by
  have hempty : ¬ (form.whole.isEmpty && form.fraction.isEmpty) := by
    simpa using ht.ne_nil
  cases point with
  | true =>
    simp only [DecimalForm.read?, ht.takeDigits_eq, if_true, List.cons_append,
      ht.takeDigits_fraction, if_neg hempty, ht.exponent, Option.map_some]
  | false =>
    have hwhole := ht.whole_ne_nil
    have hexponent := ht.exponent
    have hform : form = ⟨form.whole, [], form.exponent⟩ := by
      rw [← ht.pointless rfl]
    simp only [DecimalForm.read?, ht.takeDigits_eq, Bool.false_eq_true, if_false, List.nil_append]
    rcases readExponent?_cases hexponent with ⟨rfl, -⟩ | ⟨mark, rest, rfl, rfl | rfl, -⟩ <;>
      simp [hexponent, hwhole, ← hform]

end

theorem exists_spells_of_read? {t : Text} {form : DecimalForm}
    (hread : DecimalForm.read? t = some form) : ∃ point tail, Spells t form point tail := by
  have hwhole := eq_append_takeDigits t
  have hdigits : ∀ c ∈ (takeDigits t).1, Text.isPlainDigit c := isPlainDigit_of_mem_takeDigits
  simp only [DecimalForm.read?] at hread
  split at hread
  · rename_i rest hrest
    have hfraction := eq_append_takeDigits rest
    have hplaces : ∀ c ∈ (takeDigits rest).1, Text.isPlainDigit c := isPlainDigit_of_mem_takeDigits
    split at hread
    · cases hread
    · rename_i hempty
      obtain ⟨exponent, hexponent, rfl⟩ := Option.map_eq_some_iff.mp hread
      refine ⟨true, (takeDigits rest).2, ?_, hdigits, hplaces, nofun, by simpa using hempty,
        hexponent⟩
      rw [hrest] at hwhole
      rw [if_pos rfl, List.cons_append, ← hfraction]
      exact hwhole
  · split at hread
    · cases hread
    · rename_i hempty
      obtain ⟨exponent, hexponent, rfl⟩ := Option.map_eq_some_iff.mp hread
      exact ⟨false, _, hwhole, hdigits, nofun, fun _ => rfl, by simpa using hempty, hexponent⟩

/-- An exponent with its sign and two digits at least is read as the exponent. -/
theorem readExponent?_signed (exponent : Int) :
    readExponent? ('e' :: (if exponent < 0 then '-' else '+') ::
      Text.padStart 2 '0' (Text.ofNat exponent.natAbs)) = some exponent := by
  have hdigits := Text.digits_padStart 2 (Text.digits_ofNat exponent.natAbs)
  have hsign : takeSign ((if exponent < 0 then '-' else '+') ::
      Text.padStart 2 '0' (Text.ofNat exponent.natAbs)) =
      (decide (exponent < 0), Text.padStart 2 '0' (Text.ofNat exponent.natAbs)) := by
    by_cases hneg : exponent < 0 <;> simp [hneg, takeSign]
  simp only [readExponent?, true_or, if_true, hsign, isDigits_eq_true hdigits,
    Text.ofDigits_padStart, Text.ofDigits_ofNat]
  by_cases hneg : exponent < 0
  · simp only [hneg, decide_true, if_true, Option.some.injEq]
    omega
  · simp only [hneg, decide_false, Bool.false_eq_true, if_false, Option.some.injEq]
    omega

end Numeral

namespace Binary64

open Numeral

/-- The text is a decimal numeral of the decimal's value, with a digit in front, without zeros that
    are not needed there, with a point or an exponent, and with a digit behind the point. -/
structure Denotes (t : Text) (d : Decimal) (form : DecimalForm) (point : Bool) (tail : Text) :
    Prop extends Spells t form point tail where
  first : form.whole ≠ []
  unpadded : form.whole.head? = some '0' → form.whole = ['0']
  marked : point = true ∨ tail ≠ []
  behind : point = true → form.fraction ≠ []
  value : ∀ negative, form.value negative = ofDecimal negative d.digits d.exponent

variable {d : Decimal}

/-- The forms in which only the places of the digits differ from the decimal. -/
theorem value_eq_of_ofDigits {form : DecimalForm} {negative : Bool}
    (hdigits : Text.ofDigits (form.whole ++ form.fraction) = d.digits)
    (hexponent : form.exponent - form.fraction.length = d.exponent) :
    form.value negative = ofDecimal negative d.digits d.exponent := by
  rw [DecimalForm.value, hdigits, hexponent]

/-- A decimal below one, with a zero before the point and the zeros behind it that are needed. -/
theorem denotes_below_one (zeros : Nat)
    (hexponent : d.exponent = -(zeros + (Text.ofNat d.digits).length : Nat)) :
    Denotes ('0' :: '.' :: List.replicate zeros '0' ++ Text.ofNat d.digits) d
      ⟨['0'], List.replicate zeros '0' ++ Text.ofNat d.digits, 0⟩ true [] where
  text_eq := by simp
  whole := (by decide : ∀ c ∈ ['0'], Text.isPlainDigit c)
  fraction := by
    intro c hc
    rcases List.mem_append.mp hc with hc | hc
    · rw [List.eq_of_mem_replicate hc]
      decide
    · exact (Text.digits_ofNat d.digits).plain c hc
  pointless := nofun
  ne_nil := nofun
  exponent := rfl
  first := nofun
  unpadded := fun _ => rfl
  marked := Or.inl rfl
  behind := by simp [(Text.digits_ofNat d.digits).ne_nil]
  value := by
    intro negative
    apply value_eq_of_ofDigits
    · have hzero : Text.ofDigits ['0'] = 0 := rfl
      simp only [Text.ofDigits_append, Text.ofDigits_replicate, hzero, Text.ofDigits_ofNat]
      omega
    · simp only [List.length_append, List.length_replicate, hexponent]
      omega

/-- A whole decimal, with a zero behind the point. -/
theorem denotes_whole (zeros : Nat) (hexponent : d.exponent = zeros)
    (hzero : d.digits = 0 → zeros = 0) :
    Denotes (Text.ofNat d.digits ++ List.replicate zeros '0' ++ ['.', '0']) d
      ⟨Text.ofNat d.digits ++ List.replicate zeros '0', ['0'], 0⟩ true [] where
  text_eq := by simp
  whole := by
    intro c hc
    rcases List.mem_append.mp hc with hc | hc
    · exact (Text.digits_ofNat d.digits).plain c hc
    · rw [List.eq_of_mem_replicate hc]
      decide
  fraction := (by decide : ∀ c ∈ ['0'], Text.isPlainDigit c)
  pointless := nofun
  ne_nil := by simp
  exponent := rfl
  first := by simp [(Text.digits_ofNat d.digits).ne_nil]
  unpadded := by
    intro hhead
    have hfirst : (Text.ofNat d.digits).head? = some '0' := by
      obtain ⟨c, t, hcons⟩ := List.exists_cons_of_ne_nil (Text.digits_ofNat d.digits).ne_nil
      simp only [hcons, List.cons_append] at hhead ⊢
      exact hhead
    have hdigits : d.digits = 0 := by
      by_contra hne
      exact Text.head?_ofNat_ne hne hfirst
    simp only [hdigits, hzero hdigits]
    rfl
  marked := Or.inl rfl
  behind := nofun
  value := by
    intro negative
    have hdigits : Text.ofDigits (Text.ofNat d.digits ++ List.replicate zeros '0' ++ ['0']) =
        d.digits * 10 ^ (zeros + 1) := by
      have hzeros : List.replicate zeros '0' ++ ['0'] = List.replicate (zeros + 1) '0' :=
        (List.replicate_succ' ..).symm
      rw [List.append_assoc, hzeros, Text.ofDigits_append, Text.ofDigits_ofNat,
        Text.ofDigits_replicate, List.length_replicate, Nat.add_zero]
    rw [DecimalForm.value, hdigits, ofDecimal_mul_pow]
    congr 1
    simp only [List.length_singleton]
    omega

/-- A decimal with the point among its digits. -/
theorem denotes_between {places : Nat} (hpos : 0 < places)
    (hexponent : d.exponent = places - ((Text.ofNat d.digits).length : Int))
    (hplaces : places < (Text.ofNat d.digits).length) (hdigits : d.digits ≠ 0) :
    Denotes ((Text.ofNat d.digits).take places ++ '.' :: (Text.ofNat d.digits).drop places) d
      ⟨(Text.ofNat d.digits).take places, (Text.ofNat d.digits).drop places, 0⟩ true [] where
  text_eq := by simp
  whole := fun c hc => (Text.digits_ofNat d.digits).plain c (List.mem_of_mem_take hc)
  fraction := fun c hc => (Text.digits_ofNat d.digits).plain c (List.mem_of_mem_drop hc)
  pointless := nofun
  ne_nil := by simp [(Text.digits_ofNat d.digits).ne_nil]
  exponent := rfl
  first := by simp [(Text.digits_ofNat d.digits).ne_nil, Nat.ne_of_gt hpos]
  unpadded := by
    intro hhead
    rw [List.head?_take, if_neg (Nat.ne_of_gt hpos)] at hhead
    exact absurd hhead (Text.head?_ofNat_ne hdigits)
  marked := Or.inl rfl
  behind := fun _ => by simpa using hplaces
  value := by
    intro negative
    apply value_eq_of_ofDigits
    · rw [List.take_append_drop, Text.ofDigits_ofNat]
    · simp only [List.length_drop, hexponent]
      omega

/-- A decimal with an exponent, and with the point behind its first digit if there are more. -/
theorem denotes_scientific :
    let leading : Int := (Text.ofNat d.digits).length + d.exponent - 1
    let tail := 'e' :: (if leading < 0 then '-' else '+') ::
      Text.padStart 2 '0' (Text.ofNat leading.natAbs)
    ∃ form point, Denotes ((match Text.ofNat d.digits with
      | first :: second :: rest => first :: '.' :: second :: rest
      | short => short) ++ tail) d form point tail := by
  intro leading tail
  have hdigits := Text.digits_ofNat d.digits
  have hread : readExponent? tail = some leading := readExponent?_signed leading
  have hvalue := Text.ofDigits_ofNat d.digits
  generalize hshown : Text.ofNat d.digits = shown at hdigits hvalue
  have hleading : leading = shown.length + d.exponent - 1 := by rw [← hshown]
  match shown, hdigits with
  | [], hdigits => exact absurd rfl hdigits.ne_nil
  | [first], hdigits =>
    exact ⟨⟨[first], [], leading⟩, false, {
      text_eq := by simp
      whole := hdigits.plain
      fraction := nofun
      pointless := fun _ => rfl
      ne_nil := nofun
      exponent := hread
      first := nofun
      unpadded := fun hhead => congrArg (· :: []) (Option.some.inj hhead)
      marked := Or.inr nofun
      behind := nofun
      value := fun negative => value_eq_of_ofDigits hvalue (by
        simp only [List.length_singleton, List.length_nil] at hleading ⊢
        omega) }⟩
  | first :: second :: rest, hdigits =>
    exact ⟨⟨[first], second :: rest, leading⟩, true, {
      text_eq := by simp
      whole := fun c hc => hdigits.plain c (List.mem_singleton.mp hc ▸ List.mem_cons_self)
      fraction := fun c hc => hdigits.plain c (List.mem_cons_of_mem _ hc)
      pointless := nofun
      ne_nil := nofun
      exponent := hread
      first := nofun
      unpadded := fun hhead => congrArg (· :: []) (Option.some.inj hhead)
      marked := Or.inl rfl
      behind := nofun
      value := fun negative => value_eq_of_ofDigits hvalue (by
        simp only [List.length_cons] at hleading ⊢
        omega) }⟩

/-- The text of a decimal denotes the decimal. -/
theorem exists_denotes_text (hdigits : d.digits ≠ 0) :
    ∃ form point tail, Denotes d.text d form point tail := by
  have hne := (Text.digits_ofNat d.digits).ne_nil
  have hcount : 0 < (Text.ofNat d.digits).length := List.length_pos_iff.mpr hne
  unfold Decimal.text
  dsimp only
  split
  · split
    · exact ⟨_, _, _, denotes_below_one _ (by omega)⟩
    · split
      · exact ⟨_, _, _, denotes_whole _ (by omega) (absurd · hdigits)⟩
      · exact ⟨_, _, _, denotes_between (by omega) (by omega) (by omega) hdigits⟩
  · obtain ⟨form, point, hdenotes⟩ := denotes_scientific (d := d)
    exact ⟨form, point, _, hdenotes⟩

variable {t tail : Text} {form : DecimalForm} {point : Bool}

theorem Denotes.readFloat?_eq (ht : Denotes t d form point tail) (negative : Bool) :
    readFloat? (if negative then '-' :: t else t) =
      some (ofDecimal negative d.digits d.exponent) := by
  have hread := ht.toSpells.read?_eq
  have hsign : takeSign (if negative then '-' :: t else t) = (negative, t) := by
    cases negative with
    | true => rfl
    | false =>
      rw [if_neg Bool.false_ne_true, ht.text_eq]
      exact takeSign_of_digits ⟨ht.first, ht.whole⟩
  simp only [readFloat?, hsign, hread, ht.value]

/-- A point, or the mark of an exponent. -/
theorem Denotes.exists_mark (ht : Denotes t d form point tail) :
    ∃ c ∈ t, c = '.' ∨ c = 'e' ∨ c = 'E' := by
  rw [ht.text_eq]
  cases point with
  | true => exact ⟨'.', by simp, Or.inl rfl⟩
  | false =>
    have htail : tail ≠ [] := ht.marked.resolve_left Bool.false_ne_true
    rcases readExponent?_cases ht.exponent with ⟨hnil, -⟩ | ⟨mark, rest, rfl, hmark, -⟩
    · exact absurd hnil htail
    · exact ⟨mark, by simp, Or.inr hmark⟩

/-- The text of a finite number is that of a decimal that is read as the number. -/
theorem exists_denotes_finite {quanta : Nat} (h : Representable quanta) :
    ∃ t d form point tail, Denotes t d form point tail ∧
      ∀ negative, (finite negative quanta h).text = (if negative then '-' :: t else t) ∧
        ofDecimal negative d.digits d.exponent = finite negative quanta h := by
  by_cases hzero : quanta = 0
  · subst hzero
    exact ⟨_, ⟨0, 0⟩, _, _, _, denotes_whole 0 rfl fun _ => rfl, fun negative => ⟨rfl, rfl⟩⟩
  · obtain ⟨form, point, tail, hdenotes⟩ := exists_denotes_text (digits_shortest_ne_zero h hzero)
    refine ⟨_, _, form, point, tail, hdenotes, fun negative => ⟨?_, ?_⟩⟩
    · rw [text, if_neg hzero]
    · exact ofDecimal_shortest negative h hzero

/-- The text of a number is read back as the number. -/
theorem readFloat?_text (x : Binary64) : readFloat? x.text = some x := by
  cases x with
  | nan => rfl
  | infinite negative => cases negative <;> rfl
  | finite negative quanta h =>
    obtain ⟨t, d, form, point, tail, hdenotes, hfinite⟩ := exists_denotes_finite h
    obtain ⟨htext, hvalue⟩ := hfinite negative
    rw [htext, hdenotes.readFloat?_eq, hvalue]

/-- The text of a number is not that of an integer. -/
theorem text_ne_ofInt (x : Binary64) (i : Int) : x.text ≠ Text.ofInt i := by
  have hmark : ∃ c ∈ x.text, ¬ Text.isPlainDigit c ∧ c ≠ '-' := by
    cases x with
    | nan => exact ⟨'n', by decide, by decide, by decide⟩
    | infinite negative => exact ⟨'n', by cases negative <;> decide, by decide, by decide⟩
    | finite negative quanta h =>
      obtain ⟨t, d, form, point, tail, hdenotes, hfinite⟩ := exists_denotes_finite h
      obtain ⟨c, hmem, hc⟩ := hdenotes.exists_mark
      refine ⟨c, ?_, ?_⟩
      · rw [(hfinite negative).1]
        split
        · exact List.mem_cons_of_mem _ hmem
        · exact hmem
      · rcases hc with rfl | rfl | rfl <;> decide
  obtain ⟨c, hmem, hdigit, hhyphen⟩ := hmark
  exact Text.ne_ofInt_of_mem hmem hdigit hhyphen i

/-- An integer is read as the number nearest to it. -/
theorem readFloat?_ofInt (i : Int) :
    readFloat? (Text.ofInt i) = some (rounded (i < 0) (i.natAbs * scale) 1) := by
  have hdigits := Text.digits_ofNat i.natAbs
  have hspells : Spells (Text.ofNat i.natAbs) ⟨Text.ofNat i.natAbs, [], 0⟩ false [] := {
    text_eq := by simp
    whole := hdigits.plain
    fraction := nofun
    pointless := fun _ => rfl
    ne_nil := by simpa using hdigits.ne_nil
    exponent := rfl }
  simp only [readFloat?, takeSign_ofInt, hspells.read?_eq, DecimalForm.value, List.append_nil,
    Text.ofDigits_ofNat, List.length_nil, Int.natCast_zero, Int.sub_zero, ofDecimal_zero_exponent]

end Binary64

end RecordFilter
