import RecordFilter.Proofs.Quantity.Clock

/-!
The text of any duration: what it is read as, if it is read.

A text with a colon is no compact form, and a clock form has no point. So the text of a duration is
read as that duration or not at all, and it is not read if the duration is negative or has a fraction
of a second.
-/

namespace RecordFilter

namespace Quantity

theorem digits_of_readInteger {t : Text} {i : Int} (hread : readInteger t = .ok i) :
    Text.Digits (Numeral.takeSign t).2 := by
  rw [readInteger] at hread
  split at hread
  · cases hread
  · rename_i form hform
    simp only [Numeral.IntegerForm.read?] at hform
    split at hform
    · rename_i hdigits
      rw [Numeral.isDigits, Bool.and_eq_true, List.all_eq_true] at hdigits
      exact ⟨by simpa using hdigits.1, hdigits.2⟩
    · cases hform

/-- An integer numeral is made of digits and signs. -/
theorem characters_of_readInteger {t : Text} {i : Int} (hread : readInteger t = .ok i) :
    ∀ c ∈ t, Text.isPlainDigit c ∨ c = '+' ∨ c = '-' := by
  intro c hc
  rcases Numeral.mem_takeSign hc with h | h | h
  · exact Or.inr (Or.inl h)
  · exact Or.inr (Or.inr h)
  · exact Or.inl ((digits_of_readInteger hread).plain c h)

end Quantity

namespace Duration

variable {t : Text} {d : Duration}

theorem characters_of_readClock {seconds : Int} (hread : readClock t = .ok seconds) :
    ∀ c ∈ t, Text.isPlainDigit c ∨ c = '+' ∨ c = '-' ∨ c = ':' := by
  intro c hc
  by_cases hcolon : c = ':'
  · exact Or.inr (Or.inr (Or.inr hcolon))
  obtain ⟨piece, hpiece, hmem⟩ := Text.exists_mem_splitOn hc hcolon
  have hinteger : ∃ i, Quantity.readInteger piece = .ok i := by
    rw [readClock] at hread
    split at hread
    · rename_i hours minutes seconds hsplit
      obtain ⟨h, hhours, hread⟩ := bind_eq_ok_iff.mp hread
      obtain ⟨m, hminutes, hread⟩ := bind_eq_ok_iff.mp hread
      obtain ⟨s, hseconds, -⟩ := bind_eq_ok_iff.mp hread
      rw [hsplit] at hpiece
      simp only [List.mem_cons, List.not_mem_nil, or_false] at hpiece
      rcases hpiece with rfl | rfl | rfl
      · exact ⟨h, hhours⟩
      · exact ⟨m, hminutes⟩
      · exact ⟨s, hseconds⟩
    · cases hread
  obtain ⟨i, hi⟩ := hinteger
  rcases Quantity.characters_of_readInteger hi c hmem with h | h | h
  · exact Or.inl h
  · exact Or.inr (Or.inl h)
  · exact Or.inr (Or.inr (Or.inl h))

/-- What is read as a clock form has a colon, and no other character than digits and signs between
    its blanks. -/
theorem characters_of_readCluster (hread : readCluster t = .ok d) :
    ':' ∈ Text.trim t ∧
      ∀ c ∈ Text.trim t, Text.isPlainDigit c ∨ c = '+' ∨ c = '-' ∨ c = ':' := by
  rw [readCluster] at hread
  split at hread
  · rename_i hcolon
    refine ⟨hcolon, ?_⟩
    obtain ⟨⟨days, clock⟩, hsplit, hread⟩ := bind_eq_ok_iff.mp hread
    obtain ⟨seconds, hclock, -⟩ := bind_eq_ok_iff.mp hread
    have hchars := characters_of_readClock hclock
    rw [splitDays] at hsplit
    split at hsplit
    · obtain ⟨-, rfl⟩ := Prod.mk.inj (Except.ok.inj hsplit)
      exact hchars
    · rename_i before after hcut
      obtain ⟨i, hdays, heq⟩ := map_eq_ok_iff.mp hsplit
      obtain ⟨-, rfl⟩ := Prod.mk.inj heq
      rw [Text.eq_append_of_cut?_eq_some hcut]
      intro c hc
      rw [List.mem_append, List.mem_append, List.mem_singleton] at hc
      rcases hc with hc | rfl | hc
      · exact (Quantity.characters_of_readInteger hdays c hc).imp_right (Or.imp_right Or.inl)
      · exact Or.inr (Or.inr (Or.inl rfl))
      · exact hchars c hc
  · cases hread

/-- The characters of compact forms behind the sign: digits, points and the letters of units. -/
def IsCompactChar (c : Char) : Prop :=
  Text.isPlainDigit c ∨ c ∈ ['.', 'n', 'u', 'µ', 'μ', 's', 'm', 'h']

/-- A number takes digits and a point off the beginning of a text. -/
theorem eq_append_of_takeNumber {number : Binary64} {rest : Text}
    (htake : takeNumber t = some (number, rest)) :
    ∃ taken, t = taken ++ rest ∧ ∀ c ∈ taken, IsCompactChar c := by
  have hdigits (s : Text) : ∀ c ∈ (Numeral.takeDigits s).1, IsCompactChar c :=
    fun c hc => Or.inl (Numeral.isPlainDigit_of_mem_takeDigits c hc)
  have hwhole := Numeral.eq_append_takeDigits t
  simp only [takeNumber] at htake
  split at htake
  · rename_i after hafter
    have hfraction := Numeral.eq_append_takeDigits after
    split at htake
    · cases htake
    · obtain ⟨-, rfl⟩ := Prod.mk.inj (Option.some.inj htake)
      refine ⟨(Numeral.takeDigits t).1 ++ '.' :: (Numeral.takeDigits after).1, ?_, ?_⟩
      · rw [List.append_assoc, List.cons_append, ← hfraction, ← hafter]
        exact hwhole
      · intro c hc
        rw [List.mem_append, List.mem_cons] at hc
        rcases hc with hc | rfl | hc
        · exact hdigits t c hc
        · exact Or.inr (by decide)
        · exact hdigits after c hc
  · split at htake
    · cases htake
    · obtain ⟨-, rfl⟩ := Prod.mk.inj (Option.some.inj htake)
      exact ⟨_, hwhole, hdigits t⟩

theorem eq_append_of_takeUnit? {unit : Nat} {rest : Text}
    (htake : takeUnit? t = some (unit, rest)) :
    ∃ taken, t = taken ++ rest ∧ ∀ c ∈ taken, IsCompactChar c := by
  have hletters {taken : Text} (h : ∀ c ∈ taken, c ∈ ['.', 'n', 'u', 'µ', 'μ', 's', 'm', 'h']) :
      ∀ c ∈ taken, IsCompactChar c :=
    fun c hc => Or.inr (h c hc)
  unfold takeUnit? at htake
  split at htake
  case h_9 => cases htake
  all_goals
    obtain ⟨-, rfl⟩ := Prod.mk.inj (Option.some.inj htake)
  · exact ⟨['n', 's'], rfl, hletters (by decide)⟩
  · exact ⟨['u', 's'], rfl, hletters (by decide)⟩
  · exact ⟨['µ', 's'], rfl, hletters (by decide)⟩
  · exact ⟨['μ', 's'], rfl, hletters (by decide)⟩
  · exact ⟨['m', 's'], rfl, hletters (by decide)⟩
  · exact ⟨['s'], rfl, hletters (by decide)⟩
  · exact ⟨['m'], rfl, hletters (by decide)⟩
  · exact ⟨['h'], rfl, hletters (by decide)⟩

theorem characters_of_sumParts {fuel : Nat} {total sum : Binary64}
    (hsum : sumParts fuel total t = some sum) : ∀ c ∈ t, IsCompactChar c := by
  induction fuel generalizing total t with
  | zero =>
    cases t with
    | nil => nofun
    | cons c t => cases hsum
  | succ fuel ih =>
    cases t with
    | nil => nofun
    | cons c t =>
      rw [sumParts] at hsum
      · obtain ⟨⟨part, rest⟩, hpart, hsum⟩ := Option.bind_eq_some_iff.mp hsum
        obtain ⟨⟨number, behind⟩, hnumber, hpart⟩ := Option.bind_eq_some_iff.mp hpart
        obtain ⟨⟨unit, after⟩, hunit, hpart⟩ := Option.bind_eq_some_iff.mp hpart
        obtain ⟨-, rfl⟩ := Prod.mk.inj (Option.some.inj hpart)
        obtain ⟨digits, htext, hdigits⟩ := eq_append_of_takeNumber hnumber
        obtain ⟨letters, hbehind, hletters⟩ := eq_append_of_takeUnit? hunit
        have hrest := ih hsum
        rw [htext, hbehind, List.forall_mem_append, List.forall_mem_append]
        exact ⟨hdigits, hletters, hrest⟩
      · nofun

/-- What is read as a compact form has digits, points and letters of units behind its sign. -/
theorem characters_of_readCompact (hread : readCompact t = .ok d) :
    ∀ c ∈ (Numeral.takeSign t).2, IsCompactChar c := by
  simp only [readCompact] at hread
  split at hread
  · rename_i hzero
    rw [hzero]
    exact fun c hc => Or.inl (List.mem_singleton.mp hc ▸ by decide)
  · split at hread
    · cases hread
    · split at hread
      · cases hread
      · rename_i sum hsum
        exact characters_of_sumParts hsum

/-- A compact form has no colon. -/
theorem colon_not_mem_of_readCompact (hread : readCompact t = .ok d) : ':' ∉ t := by
  intro hmem
  rcases Numeral.mem_takeSign hmem with h | h | h
  · exact absurd h (by decide)
  · exact absurd h (by decide)
  · rcases characters_of_readCompact hread ':' h with h | h <;> exact absurd h (by decide)

/-- The text of a duration is made of digits, colons, hyphens and a point. -/
theorem characters_text (d : Duration) :
    ∀ c ∈ d.text, Text.isPlainDigit c ∨ c = ':' ∨ c = '-' ∨ c = '.' := by
  have hnat (n : Nat) : ∀ c ∈ Text.ofNat n, Text.isPlainDigit c := (Text.digits_ofNat n).plain
  have htwo (n : Nat) : ∀ c ∈ twoDigits n, Text.isPlainDigit c := (digits_twoDigits n).plain
  have hsix (n : Nat) : ∀ c ∈ Text.padStart 6 '0' (Text.ofNat n), Text.isPlainDigit c :=
    (Text.digits_padStart 6 (Text.digits_ofNat n)).plain
  intro c hc
  simp only [text] at hc
  grind

theorem colon_mem_text (d : Duration) : ':' ∈ d.text := by
  unfold text
  dsimp only
  split <;> split <;> simp

theorem trim_text (d : Duration) : Text.trim d.text = d.text := by
  refine Text.trim_eq_self_of_not_isBlank fun c hc => ?_
  rcases characters_text d c hc with h | rfl | rfl | rfl
  · exact Text.not_isBlank_of_isPlainDigit h
  · decide
  · decide
  · decide

/-- A negative duration is not read from its text, since nothing is before its first hyphen. -/
theorem nonneg_of_readCluster_text {e : Duration} (hread : readCluster d.text = .ok e) :
    0 ≤ d.micros := by
  by_contra hneg
  have htext : ∃ rest, d.text = '-' :: rest := by
    rw [text]
    exact ⟨_, if_pos (Int.not_le.mp hneg)⟩
  obtain ⟨rest, hrest⟩ := htext
  rw [readCluster, trim_text, if_pos (colon_mem_text d), hrest] at hread
  obtain ⟨split, hsplit, -⟩ := bind_eq_ok_iff.mp hread
  have hcut : Text.cut? ['-'] ('-' :: rest) = some ([], rest) := Text.cut?_append_self
  rw [splitDays, hcut] at hsplit
  cases hsplit

/-- Only whole seconds that are not negative are read from the text of a duration. -/
theorem eq_of_readCluster_text {e : Duration} (hread : readCluster d.text = .ok e) :
    d.Whole ∧ e = d := by
  have hnonneg := nonneg_of_readCluster_text hread
  have hseconds : d.micros % 1000000 = 0 := by
    by_contra hfraction
    have hpoint : '.' ∈ d.text := by
      have hmicros : ¬ d.micros.natAbs % 1000000 = 0 := by omega
      rw [text, if_neg (Int.not_lt.mpr hnonneg), if_neg hmicros]
      simp
    obtain ⟨-, hchars⟩ := characters_of_readCluster hread
    rw [trim_text] at hchars
    exact absurd (hchars '.' hpoint) (by decide)
  have hwhole : d.Whole := ⟨hnonneg, hseconds⟩
  rw [readCluster_text hwhole] at hread
  exact ⟨hwhole, (Except.ok.inj hread).symm⟩

/-- A duration is not read in compact form from its text. -/
theorem readCompact_text (d : Duration) : (readCompact d.text).toOption = none := by
  cases hread : readCompact d.text with
  | ok e => exact absurd (colon_mem_text d) (colon_not_mem_of_readCompact hread)
  | error e => rfl

theorem wholeSeconds_inRange (d : Duration) :
    -999999999 * microsPerDay ≤ ((d.micros.natAbs / 1000000 * 1000000 : Nat) : Int) ∧
      ((d.micros.natAbs / 1000000 * 1000000 : Nat) : Int) < 1000000000 * microsPerDay := by
  have hrange := d.inRange
  simp only [microsPerDay, microsPerSecond] at hrange ⊢
  omega

/-- The whole seconds of a duration, without its sign. -/
def wholeSeconds (d : Duration) : Duration where
  micros := (d.micros.natAbs / 1000000 * 1000000 : Nat)
  inRange := d.wholeSeconds_inRange

theorem whole_wholeSeconds (d : Duration) : d.wholeSeconds.Whole where
  nonneg := Int.natCast_nonneg _
  seconds := by
    change ((d.micros.natAbs / 1000000 * 1000000 : Nat) : Int) % 1000000 = 0
    omega

/-- The text of a duration is a hyphen if it is negative, the text of its whole seconds, and a point
    and six digits if there is a fraction. -/
theorem text_eq_append (d : Duration) :
    d.text = (if d.micros < 0 then ['-'] else []) ++ (d.wholeSeconds.text ++
      if d.micros.natAbs % 1000000 = 0 then []
      else '.' :: Text.padStart 6 '0' (Text.ofNat (d.micros.natAbs % 1000000))) := by
  have hnatAbs : d.wholeSeconds.micros.natAbs = d.micros.natAbs / 1000000 * 1000000 :=
    Int.natAbs_natCast _
  have hseconds : d.micros.natAbs / 1000000 * 1000000 / 1000000 = d.micros.natAbs / 1000000 := by
    omega
  have hfraction : d.micros.natAbs / 1000000 * 1000000 % 1000000 = 0 := by omega
  have hnonneg : ¬ d.wholeSeconds.micros < 0 := Int.not_lt.mpr (Int.natCast_nonneg _)
  simp only [text, hnatAbs, hseconds, if_pos hfraction, if_neg hnonneg, List.append_nil]
  split <;> rfl

theorem wholeSeconds_eq_of_text {d e : Duration} (heq : d.wholeSeconds.text = e.wholeSeconds.text) :
    d.micros.natAbs / 1000000 = e.micros.natAbs / 1000000 := by
  have hd := readCluster_text (whole_wholeSeconds d)
  rw [heq, readCluster_text (whole_wholeSeconds e)] at hd
  have hmicros := congrArg micros (Except.ok.inj hd)
  change ((e.micros.natAbs / 1000000 * 1000000 : Nat) : Int) =
    ((d.micros.natAbs / 1000000 * 1000000 : Nat) : Int) at hmicros
  omega

theorem point_not_mem_wholeSeconds (d : Duration) : '.' ∉ d.wholeSeconds.text := by
  intro hmem
  exact absurd ((clocklike_text (whole_wholeSeconds d)).characters '.' hmem) (by decide)

theorem wholeSeconds_append_ne (d : Duration) (rest tail : Text) :
    d.wholeSeconds.text ++ rest ≠ '-' :: tail := by
  obtain ⟨lead, mark, behind, htext, hlead, -⟩ := (clocklike_text (whole_wholeSeconds d)).begins
  obtain ⟨c, lead, rfl⟩ := List.exists_cons_of_ne_nil hlead.ne_nil
  rw [htext]
  intro hcons
  rw [List.cons_append, List.cons_append] at hcons
  have hdigit := hlead.plain c List.mem_cons_self
  rw [(List.cons.inj hcons).1] at hdigit
  exact absurd hdigit (by decide)

/-- A duration is its sign, its whole seconds and its fraction of a second. -/
theorem eq_of_parts {d e : Duration} (hsign : d.micros < 0 ↔ e.micros < 0)
    (hseconds : d.micros.natAbs / 1000000 = e.micros.natAbs / 1000000)
    (hfraction : d.micros.natAbs % 1000000 = e.micros.natAbs % 1000000) : d = e := by
  have hmicros : d.micros = e.micros := by omega
  cases d
  cases e
  cases hmicros
  rfl

/-- Different durations have different texts. -/
theorem text_injective {d e : Duration} (heq : d.text = e.text) : d = e := by
  have hsix (n : Nat) : Text.Digits (Text.padStart 6 '0' (Text.ofNat n)) :=
    Text.digits_padStart 6 (Text.digits_ofNat n)
  rw [text_eq_append d, text_eq_append e] at heq
  have hsign : d.micros < 0 ↔ e.micros < 0 := by
    by_cases hd : d.micros < 0 <;> by_cases he : e.micros < 0
    · exact iff_of_true hd he
    · rw [if_pos hd, if_neg he, List.nil_append, List.singleton_append] at heq
      exact absurd heq.symm (wholeSeconds_append_ne e _ _)
    · rw [if_neg hd, if_pos he, List.nil_append, List.singleton_append] at heq
      exact absurd heq (wholeSeconds_append_ne d _ _)
    · exact iff_of_false hd he
  simp only [hsign] at heq
  have hrest := List.append_cancel_left heq
  split at hrest <;> split at hrest
  · rename_i hd he
    rw [List.append_nil, List.append_nil] at hrest
    exact eq_of_parts hsign (wholeSeconds_eq_of_text hrest) (hd.trans he.symm)
  · rw [List.append_nil] at hrest
    exact absurd (hrest ▸ List.mem_append_right _ List.mem_cons_self) (point_not_mem_wholeSeconds d)
  · rw [List.append_nil] at hrest
    exact absurd (hrest ▸ List.mem_append_right _ List.mem_cons_self) (point_not_mem_wholeSeconds e)
  · obtain ⟨hseconds, -, hfraction⟩ := (List.append_cons_inj_of_notMem
      (point_not_mem_wholeSeconds d) ((hsix _).not_mem (by decide))).mp hrest
    have hvalue := congrArg Text.ofDigits hfraction
    rw [Text.ofDigits_padStart, Text.ofDigits_padStart, Text.ofDigits_ofNat,
      Text.ofDigits_ofNat] at hvalue
    exact eq_of_parts hsign (wholeSeconds_eq_of_text hseconds) hvalue

end Duration

end RecordFilter
