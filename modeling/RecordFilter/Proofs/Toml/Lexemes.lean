import Mathlib.Data.List.Count
import Mathlib.Data.List.TakeDrop
import RecordFilter.Proofs.Number.Digits
import RecordFilter.Proofs.Outcome
import RecordFilter.Proofs.Text.Search
import RecordFilter.Toml.Reader

/-!
The smallest parts of a document of settings, read from the beginning of a text.

What is read leaves an end of the text. A fault that is not a break of the rules tells something of
the text: it has a number with more digits than are converted, or more brackets and braces than the
depth limit allows for.
-/

namespace RecordFilter.Toml

/-- The text has a row of digits and low lines with more digits than are converted. -/
def HasLongNumber (text : Text) : Prop :=
  ∃ row, row <:+: text ∧ (∀ c ∈ row, Text.isPlainDigit c ∨ c = '_') ∧
    digitLimit < row.countP Text.isPlainDigit

/-- How much of the depth limit the brackets and braces of a text can use up. -/
def nestCost (text : Text) : Nat :=
  arrayCost * text.count '[' + tableCost * text.count '\x7b'

/-- What a fault tells of a text that is read with some room in the depth limit. -/
def Tells (room : Nat) (text : Text) : TomlError → Prop
  | .malformed => True
  | .tooManyDigits => HasLongNumber text
  | .nestedTooDeeply => room < nestCost text

/-- The step leaves an end of the text, or its fault tells something of the text. -/
abbrev Skips (room : Nat) (text : Text) (step : Except TomlError Text) : Prop :=
  Ends (fun rest => rest <:+ text) (Tells room text) step

/-- The step reads something and leaves an end of the text, or its fault tells something of the
    text. -/
abbrev Takes {α : Type} (room : Nat) (text : Text) (step : Except TomlError (α × Text)) : Prop :=
  Ends (fun read => read.2 <:+ text) (Tells room text) step

section

variable {α β : Type} {room : Nat} {text rest : Text}

theorem HasLongNumber.of_isInfix (hlong : HasLongNumber rest) (hrest : rest <:+: text) :
    HasLongNumber text := by
  obtain ⟨row, hrow, hchars, hdigits⟩ := hlong
  exact ⟨row, hrow.trans hrest, hchars, hdigits⟩

theorem nestCost_le_of_sublist (hrest : rest.Sublist text) : nestCost rest ≤ nestCost text :=
  Nat.add_le_add (Nat.mul_le_mul_left _ (hrest.count_le '['))
    (Nat.mul_le_mul_left _ (hrest.count_le '\x7b'))

theorem Tells.of_isSuffix {e : TomlError} (htells : Tells room rest e) (hrest : rest <:+ text) :
    Tells room text e := by
  cases e with
  | malformed => trivial
  | tooManyDigits => exact HasLongNumber.of_isInfix htells hrest.isInfix
  | nestedTooDeeply => exact Nat.lt_of_lt_of_le htells (nestCost_le_of_sublist hrest.sublist)

theorem Tells.long_or_deep {e : TomlError} (htells : Tells room text e) (he : e ≠ .malformed) :
    HasLongNumber text ∨ room < nestCost text := by
  cases e with
  | malformed => contradiction
  | tooManyDigits => exact Or.inl htells
  | nestedTooDeeply => exact Or.inr htells

theorem skips_malformed : Skips room text malformed :=
  .error trivial

theorem takes_malformed : Takes (α := α) room text malformed :=
  .error trivial

theorem Skips.of_isSuffix {step : Except TomlError Text} (hstep : Skips room rest step)
    (hrest : rest <:+ text) : Skips room text step :=
  hstep.imp (fun _ hend => hend.trans hrest) fun _ htells => htells.of_isSuffix hrest

theorem Takes.of_isSuffix {step : Except TomlError (α × Text)} (hstep : Takes room rest step)
    (hrest : rest <:+ text) : Takes room text step :=
  hstep.imp (fun _ hend => hend.trans hrest) fun _ htells => htells.of_isSuffix hrest

theorem Skips.then_takes {step : Except TomlError Text} (hstep : Skips room text step)
    {next : Text → Except TomlError (α × Text)} (hnext : ∀ rest, Takes room rest (next rest)) :
    Takes room text (step >>= next) :=
  hstep.bind fun rest hend => (hnext rest).of_isSuffix hend

theorem Takes.then_takes {step : Except TomlError (α × Text)} (hstep : Takes room text step)
    {next : α × Text → Except TomlError (β × Text)}
    (hnext : ∀ a rest, Takes room rest (next (a, rest))) : Takes room text (step >>= next) :=
  hstep.bind fun (a, rest) hend => (hnext a rest).of_isSuffix hend

theorem Takes.map {step : Except TomlError (α × Text)} (hstep : Takes room text step)
    {f : α × Text → β × Text} (hf : ∀ a rest, (f (a, rest)).2 <:+ rest) :
    Takes room text (step.map f) :=
  Ends.map hstep fun (a, rest) hend => (hf a rest).trans hend

end

section

variable {room : Nat} {text : Text}

theorem isSuffix_skipGaps (text : Text) : skipGaps text <:+ text :=
  List.dropWhile_suffix _

theorem skips_skipComment (room : Nat) (text : Text) : Skips room text (skipComment text) := by
  unfold skipComment
  split
  · rename_i rest
    rw [List.span_eq_takeWhile_dropWhile]
    dsimp only
    split
    · exact skips_malformed
    · exact .ok ((List.dropWhile_suffix _).trans (List.suffix_cons _ _))
  · exact .ok (List.suffix_refl _)

theorem skips_skipLines (room fuel : Nat) (text : Text) :
    Skips room text (skipLines fuel text) := by
  induction fuel generalizing text with
  | zero => exact .ok (List.suffix_refl _)
  | succ fuel ih =>
    rw [skipLines]
    refine ((skips_skipComment room _).of_isSuffix (List.dropWhile_suffix _)).bind ?_
    intro rest hrest
    split
    · exact .ok hrest
    · exact (ih rest).of_isSuffix hrest

theorem takes_readCode (room count : Nat) (text : Text) :
    Takes room text (readCode count text) := by
  unfold readCode
  dsimp only
  by_cases hdigits : (text.take count).length = count ∧ (text.take count).all Text.isHexDigit
  · rw [if_pos hdigits]
    by_cases hvalid : (Text.ofBase 16 (text.take count)).isValidChar
    · rw [dif_pos hvalid]
      exact .ok (List.drop_suffix _ _)
    · rw [dif_neg hvalid]
      exact takes_malformed
  · rw [if_neg hdigits]
    exact takes_malformed

theorem skips_skipLineEnd (room : Nat) (text : Text) : Skips room text (skipLineEnd text) := by
  unfold skipLineEnd
  split
  · exact .ok (List.nil_suffix)
  · rename_i rest hgaps
    have hend := isSuffix_skipGaps text
    rw [hgaps] at hend
    exact .ok ((List.dropWhile_suffix _).trans ((List.suffix_cons '\n' rest).trans hend))
  · exact skips_malformed

theorem takes_readEscape (room : Nat) (lines : Bool) (text : Text) :
    Takes room text (readEscape lines text) := by
  unfold readEscape
  split
  · exact ((takes_readCode room 4 _).map fun _ _ => List.suffix_refl _).of_isSuffix
      (List.suffix_cons _ _)
  · exact ((takes_readCode room 8 _).map fun _ _ => List.suffix_refl _).of_isSuffix
      (List.suffix_cons _ _)
  · split
    · exact (skips_skipLineEnd room _).map fun _ hrest => hrest
    · split
      · exact .ok (List.suffix_cons _ _)
      · exact takes_malformed
  · exact takes_malformed

theorem takes_readBasic (room : Nat) (lines : Bool) (fuel : Nat) (read text : Text) :
    Takes room text (readBasic lines fuel read text) := by
  induction fuel generalizing read text with
  | zero => exact takes_malformed
  | succ fuel ih =>
    cases text with
    | nil => exact takes_malformed
    | cons c rest =>
      have hskip : ∀ read, Takes room (c :: rest) (readBasic lines fuel read rest) :=
        fun read => (ih read rest).of_isSuffix (List.suffix_cons c rest)
      unfold readBasic
      split
      · split
        · exact .ok (List.suffix_cons _ _)
        · split
          · rename_i after
            have hafter : after <:+ '"' :: '"' :: after :=
              (List.suffix_cons _ _).trans (List.suffix_cons _ _)
            exact .ok (hafter.trans (List.suffix_cons _ _))
          · exact hskip _
      · split
        · have hescape := takes_readEscape room lines rest
          refine (hescape.of_isSuffix (List.suffix_cons c rest)).then_takes ?_
          exact fun part after => ih _ after
        · split
          · split
            · exact takes_malformed
            · exact hskip _
          · split
            · exact takes_malformed
            · exact hskip _

theorem takes_readLine (room : Nat) (text : Text) : Takes room text (readLine text) :=
  takes_readBasic room false _ [] text

theorem takes_readLiteral (room : Nat) (mark : Text) (isBad : Char → Bool) (text : Text) :
    Takes room text (readLiteral mark isBad text) := by
  unfold readLiteral
  split
  · rename_i read rest hcut
    have hrest : rest <:+ text := by
      rw [Text.eq_append_of_cut?_eq_some hcut, ← List.append_assoc]
      exact List.suffix_append _ rest
    split
    · exact takes_malformed
    · exact .ok hrest
  · exact takes_malformed

theorem isSuffix_readExtra (mark : Char) (read text : Text) :
    (readExtra mark read text).2 <:+ text := by
  unfold readExtra
  split
  · split
    · split
      · split
        · exact (List.suffix_cons _ _).trans (List.suffix_cons _ _)
        · exact List.suffix_cons _ _
      · exact List.nil_suffix
    · exact List.suffix_refl _
  · exact List.suffix_refl _

theorem isSuffix_skipFirstEnd (text : Text) : skipFirstEnd text <:+ text := by
  unfold skipFirstEnd
  split
  · exact List.suffix_cons _ _
  · exact List.suffix_refl _

theorem takes_readText? {step : Except TomlError (Text × Text)}
    (hread : readText? text = some step) : Takes room text step := by
  unfold readText? at hread
  split at hread
  · rename_i rest
    have hbody := takes_readBasic room true ((skipFirstEnd rest).length + 1) [] (skipFirstEnd rest)
    have hrest : skipFirstEnd rest <:+ '"' :: '"' :: '"' :: rest :=
      (isSuffix_skipFirstEnd rest).trans (List.suffix_append ['"', '"', '"'] rest)
    cases hread
    exact (hbody.map fun _ _ => isSuffix_readExtra _ _ _).of_isSuffix hrest
  · cases hread
    exact (takes_readLine room _).of_isSuffix (List.suffix_cons _ _)
  · rename_i rest
    have hbody :=
      takes_readLiteral room ['\'', '\'', '\''] isIllegalInLines (skipFirstEnd rest)
    have hrest : skipFirstEnd rest <:+ '\'' :: '\'' :: '\'' :: rest :=
      (isSuffix_skipFirstEnd rest).trans (List.suffix_append ['\'', '\'', '\''] rest)
    cases hread
    exact (hbody.map fun _ _ => isSuffix_readExtra _ _ _).of_isSuffix hrest
  · cases hread
    exact (takes_readLiteral room _ _ _).of_isSuffix (List.suffix_cons _ _)
  · cases hread

theorem takes_readName (room : Nat) (text : Text) : Takes room text (readName text) := by
  unfold readName
  split
  · exact (takes_readLine room _).of_isSuffix (List.suffix_cons _ _)
  · exact (takes_readLiteral room _ _ _).of_isSuffix (List.suffix_cons _ _)
  · rw [List.span_eq_takeWhile_dropWhile]
    dsimp only
    split
    · exact takes_malformed
    · exact .ok (List.dropWhile_suffix _)

theorem takes_readPath (room fuel : Nat) (text : Text) : Takes room text (readPath fuel text) := by
  induction fuel generalizing text with
  | zero => exact takes_malformed
  | succ fuel ih =>
    rw [readPath]
    refine (takes_readName room text).then_takes fun name rest => ?_
    dsimp only
    have hgaps := isSuffix_skipGaps rest
    split
    · rename_i after hpoint
      rw [hpoint] at hgaps
      have hafter := (isSuffix_skipGaps after).trans ((List.suffix_cons '.' after).trans hgaps)
      exact ((ih (skipGaps after)).of_isSuffix hafter).then_takes fun _ _ =>
        .ok (List.suffix_refl _)
    · exact .ok hgaps

/-- The digits that are counted stand at the beginning of a text, with low lines between them. -/
structure Counted (p : Char → Bool) (text : Text) (counted : Nat × Text) (row : Text) : Prop where
  text_eq : text = row ++ counted.2
  chars : ∀ c ∈ row, p c ∨ c = '_'
  count : row.countP p = counted.1

theorem Counted.nil {p : Char → Bool} (text : Text) : Counted p text (0, text) [] :=
  ⟨rfl, nofun, rfl⟩

theorem Counted.cons {p : Char → Bool} {c : Char} (hc : p c) {text row : Text}
    {counted : Nat × Text} (hrest : Counted p text counted row) :
    Counted p (c :: text) (counted.1 + 1, counted.2) (c :: row) where
  text_eq := congrArg (c :: ·) hrest.text_eq
  chars := List.forall_mem_cons.mpr ⟨Or.inl hc, hrest.chars⟩
  count := by rw [List.countP_cons_of_pos hc, hrest.count]

theorem Counted.low {p : Char → Bool} (hp : ¬ p '_') {text row : Text} {counted : Nat × Text}
    (hrest : Counted p text counted row) : Counted p ('_' :: text) counted ('_' :: row) where
  text_eq := congrArg ('_' :: ·) hrest.text_eq
  chars := List.forall_mem_cons.mpr ⟨Or.inr rfl, hrest.chars⟩
  count := by rw [List.countP_cons_of_neg hp, hrest.count]

theorem exists_counted_moreDigits {p : Char → Bool} (hp : ¬ p '_') (text : Text) :
    ∃ row, Counted p text (moreDigits p text) row := by
  fun_induction moreDigits p text with
  | case1 d rest hd n after hmore ih =>
    obtain ⟨row, hrow⟩ := ih
    rw [hmore] at hrow
    exact ⟨'_' :: d :: row, (hrow.cons hd).low hp⟩
  | case2 d rest hd => exact ⟨[], .nil _⟩
  | case3 d rest hlow hd n after hmore ih =>
    obtain ⟨row, hrow⟩ := ih
    rw [hmore] at hrow
    exact ⟨d :: row, hrow.cons hd⟩
  | case4 d rest hlow hd => exact ⟨[], .nil _⟩
  | case5 => exact ⟨[], .nil []⟩

theorem exists_counted_countDigits {p : Char → Bool} (hp : ¬ p '_') (text : Text) :
    ∃ row, Counted p text (countDigits p text) row := by
  unfold countDigits
  split
  · rename_i d rest
    split
    · rename_i hd
      obtain ⟨row, hrow⟩ := exists_counted_moreDigits hp rest
      exact ⟨d :: row, hrow.cons hd⟩
    · exact ⟨[], .nil _⟩
  · exact ⟨[], .nil []⟩

theorem isSuffix_countDigits {p : Char → Bool} (hp : ¬ p '_') (text : Text) :
    (countDigits p text).2 <:+ text := by
  obtain ⟨row, hrow⟩ := exists_counted_countDigits hp text
  exact ⟨row, hrow.text_eq.symm⟩

theorem isSuffix_skipBased? {rest : Text} (hskip : skipBased? text = some rest) :
    rest <:+ text := by
  unfold skipBased? at hskip
  split at hskip
  · rename_i letter digits
    obtain ⟨p, hp, hskip⟩ := Option.bind_eq_some_iff.mp hskip
    have hlow : ¬ p '_' := by
      unfold digitsOf? at hp
      split at hp <;> cases hp <;> decide
    have hdigits : digits <:+ '0' :: letter :: digits := List.suffix_append ['0', letter] digits
    dsimp only at hskip
    split at hskip
    · cases hskip
    · cases hskip
      exact (isSuffix_countDigits hlow digits).trans hdigits
  · cases hskip

theorem isSuffix_skipWhole? {count : Nat} {rest : Text}
    (hskip : skipWhole? text = some (count, rest)) :
    rest <:+ text ∧ (digitLimit < count → HasLongNumber text) := by
  unfold skipWhole? at hskip
  split at hskip
  · cases hskip
    exact ⟨List.suffix_cons _ _, fun hlong => absurd hlong (by decide)⟩
  · obtain ⟨row, hrow⟩ := exists_counted_countDigits (p := Text.isPlainDigit) (by decide) text
    dsimp only at hskip
    split at hskip
    · cases hskip
    · obtain ⟨rfl, rfl⟩ := Prod.mk.inj (Option.some.inj hskip)
      have hbegins : row <+: text := ⟨_, hrow.text_eq.symm⟩
      refine ⟨⟨row, hrow.text_eq.symm⟩, fun hlong => ⟨row, hbegins.isInfix, hrow.chars, ?_⟩⟩
      rwa [hrow.count]

theorem isSuffix_skipFraction (text : Text) : skipFraction text <:+ text := by
  unfold skipFraction
  split
  · dsimp only
    split
    · exact List.suffix_refl _
    · exact (isSuffix_countDigits (by decide) _).trans (List.suffix_cons _ _)
  · exact List.suffix_refl _

theorem isSuffix_skipPower (text : Text) : skipPower text <:+ text := by
  unfold skipPower
  split
  · split
    · dsimp only
      split
      · exact List.suffix_refl _
      · exact ((isSuffix_countDigits (by decide) _).trans (Numeral.isSuffix_takeSign _)).trans
          (List.suffix_cons _ _)
    · exact List.suffix_refl _
  · exact List.suffix_refl _

theorem takes_readNumber? {step : Except TomlError (Item × Text)}
    (hread : readNumber? text = some step) : Takes room text step := by
  unfold readNumber? at hread
  split at hread
  · rename_i rest hbased
    cases hread
    exact .ok (isSuffix_skipBased? hbased)
  · split at hread
    · cases hread
    · rename_i count rest hwhole
      have hsign := Numeral.isSuffix_takeSign text
      obtain ⟨hrest, hlong⟩ := isSuffix_skipWhole? hwhole
      dsimp only at hread
      split at hread
      · rename_i hcount
        cases hread
        exact .error ((hlong hcount.2).of_isInfix hsign.isInfix)
      · cases hread
        have hafter := (isSuffix_skipPower _).trans (isSuffix_skipFraction rest)
        exact .ok (hafter.trans (hrest.trans hsign))

theorem takes_readNamed? {step : Except TomlError (Item × Text)}
    (hread : readNamed? text = some step) : Takes room text step := by
  unfold readNamed? at hread
  dsimp only at hread
  split at hread
  · cases hread
    exact .ok ((List.drop_suffix _ _).trans (Numeral.isSuffix_takeSign text))
  · cases hread

section

variable {rest : Text}

theorem isSuffix_twoDigits? {most n : Nat} (hread : twoDigits? most text = some (n, rest)) :
    rest <:+ text := by
  unfold twoDigits? at hread
  split at hread
  · rename_i a b after
    dsimp only at hread
    split at hread
    · cases hread
      exact List.suffix_append [a, b] rest
    · cases hread
  · cases hread

theorem isSuffix_expect? {c : Char} (hread : expect? c text = some rest) : rest <:+ text := by
  unfold expect? at hread
  split at hread
  · split at hread
    · cases hread
      exact List.suffix_cons _ _
    · cases hread
  · cases hread

/-- Two digits after a mark. -/
theorem isSuffix_expect?_twoDigits? {c : Char} {next : Text} {most n : Nat}
    (hmark : expect? c text = some next) (hdigits : twoDigits? most next = some (n, rest)) :
    rest <:+ text :=
  (isSuffix_twoDigits? hdigits).trans (isSuffix_expect? hmark)

theorem isSuffix_skipClock? (hread : skipClock? text = some rest) : rest <:+ text := by
  obtain ⟨⟨_, afterHour⟩, hhour, hread⟩ := Option.bind_eq_some_iff.mp hread
  obtain ⟨minute, hcolon, hread⟩ := Option.bind_eq_some_iff.mp hread
  obtain ⟨⟨_, afterMinute⟩, hminute, hread⟩ := Option.bind_eq_some_iff.mp hread
  obtain ⟨second, hsecondColon, hread⟩ := Option.bind_eq_some_iff.mp hread
  obtain ⟨⟨_, afterSecond⟩, hsecond, hread⟩ := Option.bind_eq_some_iff.mp hread
  have hminutes := (isSuffix_expect?_twoDigits? hcolon hminute).trans (isSuffix_twoDigits? hhour)
  have hseconds := (isSuffix_expect?_twoDigits? hsecondColon hsecond).trans hminutes
  dsimp only at hread
  split at hread
  · rename_i fraction
    have hfraction := (Numeral.isSuffix_takeDigits fraction).trans (List.suffix_cons '.' fraction)
    rw [← Option.some.inj hread]
    split
    · exact hseconds
    · exact hfraction.trans hseconds
  · rw [← Option.some.inj hread]
    exact hseconds

theorem isSuffix_getD {step : Option Text} (hstep : ∀ rest, step = some rest → rest <:+ text) :
    step.getD text <:+ text := by
  cases step with
  | none => exact List.suffix_refl text
  | some rest => exact hstep rest rfl

theorem isSuffix_skipZone (text : Text) : skipZone text <:+ text := by
  unfold skipZone
  split
  · rename_i c rest
    split
    · exact List.suffix_cons c rest
    · split
      · refine isSuffix_getD fun after hzone => ?_
        obtain ⟨⟨_, afterHour⟩, hhour, hzone⟩ := Option.bind_eq_some_iff.mp hzone
        obtain ⟨minute, hcolon, hzone⟩ := Option.bind_eq_some_iff.mp hzone
        obtain ⟨⟨_, afterMinute⟩, hminute, hzone⟩ := Option.bind_eq_some_iff.mp hzone
        have hhours := (isSuffix_twoDigits? hhour).trans (List.suffix_cons c rest)
        rw [← Option.some.inj hzone]
        exact (isSuffix_expect?_twoDigits? hcolon hminute).trans hhours
      · exact List.suffix_refl _
  · exact List.suffix_refl _

theorem isSuffix_skipTime (text : Text) : skipTime text <:+ text := by
  unfold skipTime
  split
  · rename_i c rest
    split
    · refine isSuffix_getD fun after htime => ?_
      obtain ⟨zone, hclock, rfl⟩ := Option.map_eq_some_iff.mp htime
      have hzone := (isSuffix_skipClock? hclock).trans (List.suffix_cons c rest)
      exact (isSuffix_skipZone zone).trans hzone
    · exact List.suffix_refl _
  · exact List.suffix_refl _

theorem isSuffix_readDate? {date : Date} (hread : readDate? text = some (date, rest)) :
    rest <:+ text := by
  unfold readDate? at hread
  dsimp only at hread
  split at hread
  · cases hread
  · obtain ⟨month, hhyphen, hread⟩ := Option.bind_eq_some_iff.mp hread
    obtain ⟨⟨_, afterMonth⟩, hmonth, hread⟩ := Option.bind_eq_some_iff.mp hread
    obtain ⟨day, hsecondHyphen, hread⟩ := Option.bind_eq_some_iff.mp hread
    obtain ⟨⟨_, afterDay⟩, hday, hread⟩ := Option.bind_eq_some_iff.mp hread
    have hmonths := (isSuffix_expect?_twoDigits? hhyphen hmonth).trans (List.drop_suffix 4 text)
    have hdays := (isSuffix_expect?_twoDigits? hsecondHyphen hday).trans hmonths
    dsimp only at hread
    split at hread
    · cases hread
    · obtain ⟨-, rfl⟩ := Prod.mk.inj (Option.some.inj hread)
      exact hdays

end

theorem takes_readTime? {step : Except TomlError (Item × Text)}
    (hread : readTime? text = some step) : Takes room text step := by
  unfold readTime? at hread
  split at hread
  · rename_i date rest hdate
    dsimp only at hread
    cases hread
    split
    · exact .ok ((isSuffix_skipTime rest).trans (isSuffix_readDate? hdate))
    · exact takes_malformed
  · obtain ⟨rest, hclock, hstep⟩ := Option.map_eq_some_iff.mp hread
    subst hstep
    exact .ok (isSuffix_skipClock? hclock)

end

end RecordFilter.Toml
