import Mathlib.Data.List.Chain
import RecordFilter.Filter.Dates
import RecordFilter.Proofs.Calendar.Layouts
import RecordFilter.Proofs.Calendar.Moments
import RecordFilter.Proofs.Calendar.Ranges
import RecordFilter.Proofs.Text.Ends

/-!
Dates and times in writing.

A text writes a moment in a layout if it is a row of pieces, one for each field, and each piece
shows its field of the moment. Numbers may be written with a zero in front or without, the names of
months in any case, and a gap is any run of blanks. Every such text is read as the moment that it
writes, cut to what the layout shows.
-/

namespace RecordFilter

namespace Calendar

/-- The piece is the digits of a number, a single digit with a zero in front or without. -/
def IsNumeral (n : Nat) (piece : Text) : Prop :=
  piece = Text.ofNat n ∨ piece = Text.padStart 2 '0' (Text.ofNat n)

instance (n : Nat) (piece : Text) : Decidable (IsNumeral n piece) :=
  inferInstanceAs (Decidable (_ ∨ _))

/-- The piece of a text shows a field of the moment. -/
def Field.Shows (m : Moment) (piece : Text) : Field → Prop
  | year => piece = Text.padStart 4 '0' (Text.ofNat m.date.year)
  | month => IsNumeral m.date.month piece
  | monthName => monthNames[m.date.month - 1]? = some (piece.map Char.toLower)
  | monthAbbreviation => monthAbbreviations[m.date.month - 1]? = some (piece.map Char.toLower)
  | day => IsNumeral m.date.day piece
  | hour => IsNumeral m.clock.hour piece
  | minute => IsNumeral m.clock.minute piece
  | second => IsNumeral m.clock.second piece
  | gap => piece ≠ [] ∧ ∀ c ∈ piece, Text.isBlank c
  | fixed c => piece = [c]

instance (m : Moment) (piece : Text) : DecidablePred (Field.Shows m piece)
  | .year | .monthName | .monthAbbreviation | .fixed _ => inferInstanceAs (Decidable (_ = _))
  | .month | .day | .hour | .minute | .second => inferInstanceAs (Decidable (IsNumeral _ _))
  | .gap => inferInstanceAs (Decidable (_ ∧ _))

/-- The text writes a moment in the layout. -/
def Layout.Writes (layout : Layout) (m : Moment) (text : Text) : Prop :=
  ∃ pieces : List Text, text = pieces.flatten ∧
    List.Forall₂ (fun field piece => field.Shows m piece) layout.fields pieces

/-- The moment that a layout shows: the beginning of the day if it has no time of day, and a time of
    the present day if it has no date. -/
def Layout.shown (layout : Layout) (now m : Moment) : Moment :=
  match layout with
  | date | slashes | short => m.startOfDay
  | clock => now.atTimeOf m
  | dateTime | stamp | long => m

theorem digitChar_spec : ∀ n < 10, Text.isPlainDigit n.digitChar ∧
    Text.plainDigitValue n.digitChar = n ∧ anyDigit? n.digitChar = some n := by
  decide

theorem plainDigit?_digitChar {low high n : Nat} (hn : n < 10) :
    plainDigit? low high n.digitChar = if low ≤ n ∧ n ≤ high then some n else none := by
  obtain ⟨hplain, hvalue, -⟩ := digitChar_spec n hn
  simp only [plainDigit?, hplain, hvalue, Bool.true_and, Bool.and_eq_true, decide_eq_true_eq]

theorem padStart_one {n : Nat} (hn : n < 10) :
    Text.padStart 1 '0' (Text.ofNat n) = [n.digitChar] := by
  rw [Text.ofNat, Nat.toDigits_of_lt_base hn]
  rfl

/-- The last digit of a number stands behind the digits of the number without it. -/
theorem padStart_succ {width : Nat} (hwidth : 1 ≤ width) (n : Nat) :
    Text.padStart (width + 1) '0' (Text.ofNat n) =
      Text.padStart width '0' (Text.ofNat (n / 10)) ++ [(n % 10).digitChar] := by
  by_cases hn : n < 10
  · have hzero : Text.ofNat (n / 10) = ['0'] := by
      rw [Nat.div_eq_of_lt hn]
      rfl
    obtain ⟨zeros, rfl⟩ := Nat.exists_eq_add_of_le' hwidth
    rw [hzero, Nat.mod_eq_of_lt hn, Text.ofNat, Nat.toDigits_of_lt_base hn]
    simp [Text.padStart, List.replicate_succ']
  · rw [Text.ofNat, Nat.toDigits_of_base_le (by decide) (Nat.le_of_not_lt hn)]
    simp [Text.padStart, Text.ofNat]

theorem padStart_two {n : Nat} (hn : n < 100) :
    Text.padStart 2 '0' (Text.ofNat n) = [(n / 10).digitChar, (n % 10).digitChar] := by
  rw [padStart_succ le_rfl, padStart_one (by omega)]
  rfl

theorem padStart_four {n : Nat} (hn : n < 10000) :
    Text.padStart 4 '0' (Text.ofNat n) =
      [(n / 1000).digitChar, (n / 100 % 10).digitChar, (n / 10 % 10).digitChar,
        (n % 10).digitChar] := by
  rw [padStart_succ (by decide), padStart_succ (by decide), padStart_two (by omega)]
  simp only [Nat.div_div_eq_div_mul]
  rfl

theorem IsNumeral.cases {n : Nat} {piece : Text} (hpiece : IsNumeral n piece) (hn : n < 100) :
    (n < 10 ∧ piece = [n.digitChar]) ∨ piece = [(n / 10).digitChar, (n % 10).digitChar] := by
  rcases hpiece with rfl | rfl
  · by_cases hsmall : n < 10
    · exact Or.inl ⟨hsmall, Nat.toDigits_of_lt_base hsmall⟩
    · rw [Text.ofNat, Nat.toDigits_of_base_le (by decide) (Nat.le_of_not_lt hsmall),
        Nat.toDigits_of_lt_base (by omega)]
      exact Or.inr rfl
  · exact Or.inr (padStart_two hn)

/-- The text does not go on with a digit. -/
def NoDigitFirst (rest : Text) : Prop :=
  ∀ c ∈ rest.head?, ¬ Text.isDecimalDigit c

section

variable {n low high : Nat} {piece rest : Text}

theorem twoDigits_eq_nil {first : Char} {second : Char → Option Nat} (hsecond : OnlyDigits second)
    (hrest : NoDigitFirst rest) : twoDigits low high second (first :: rest) = [] := by
  cases rest with
  | nil => rfl
  | cons c rest =>
    have hc : second c = none :=
      Option.eq_none_iff_forall_ne_some.mpr fun n hn => hrest c rfl (hsecond c n hn)
    rw [twoDigits, hc]
    split
    · cases ‹none = some _›
    · rfl

/-- A two-digit number is read if its digits are in their bounds. -/
theorem head?_twoDigits_plain {lowUnit highUnit : Nat} (hn : n < 100) :
    (twoDigits low high (plainDigit? lowUnit highUnit)
      ((n / 10).digitChar :: (n % 10).digitChar :: rest)).head? =
      if (low ≤ n / 10 ∧ n / 10 ≤ high) ∧ lowUnit ≤ n % 10 ∧ n % 10 ≤ highUnit
      then some (n, rest) else none := by
  rw [twoDigits, plainDigit?_digitChar (by omega), plainDigit?_digitChar (by omega)]
  by_cases hten : low ≤ n / 10 ∧ n / 10 ≤ high
  · by_cases hunit : lowUnit ≤ n % 10 ∧ n % 10 ≤ highUnit
    · simp [hten, hunit, Nat.div_add_mod]
    · simp [hten, hunit]
  · simp [hten]

theorem head?_twoDigits_any (hn : n < 100) :
    (twoDigits low high anyDigit? ((n / 10).digitChar :: (n % 10).digitChar :: rest)).head? =
      if low ≤ n / 10 ∧ n / 10 ≤ high then some (n, rest) else none := by
  rw [twoDigits, plainDigit?_digitChar (by omega), (digitChar_spec (n % 10) (by omega)).2.2]
  by_cases hten : low ≤ n / 10 ∧ n / 10 ≤ high
  · simp [hten, Nat.div_add_mod]
  · simp [hten]

theorem oneDigit_plain (hn : 1 ≤ n ∧ n ≤ 9) :
    oneDigit (plainDigit? 1 9) (n.digitChar :: rest) = [(n, rest)] := by
  rw [oneDigit, plainDigit?_digitChar (by omega), if_pos hn]
  rfl

theorem oneDigit_any (hn : n < 10) : oneDigit anyDigit? (n.digitChar :: rest) = [(n, rest)] := by
  rw [oneDigit, (digitChar_spec n hn).2.2]
  rfl

/-- A number is read whole and before any shorter one, with or without its zero. -/
theorem head?_readDay (hpiece : IsNumeral n piece) (hn : 1 ≤ n ∧ n ≤ 31)
    (hrest : NoDigitFirst rest) : (readDay (piece ++ rest)).head? = some (n, rest) := by
  rcases hpiece.cases (by omega) with ⟨hsmall, rfl⟩ | rfl
  · simp only [readDay, List.cons_append, List.nil_append,
      twoDigits_eq_nil (onlyDigits_plainDigit? _ _) hrest,
      twoDigits_eq_nil onlyDigits_anyDigit? hrest, oneDigit_plain ⟨hn.1, Nat.le_of_lt_succ hsmall⟩]
    rfl
  · simp only [readDay, List.cons_append, List.nil_append, List.head?_append,
      head?_twoDigits_plain (show n < 100 by omega), head?_twoDigits_any (show n < 100 by omega)]
    split_ifs <;> first | rfl | omega

theorem head?_readMonth (hpiece : IsNumeral n piece) (hn : 1 ≤ n ∧ n ≤ 12)
    (hrest : NoDigitFirst rest) : (readMonth (piece ++ rest)).head? = some (n, rest) := by
  rcases hpiece.cases (by omega) with ⟨hsmall, rfl⟩ | rfl
  · simp only [readMonth, List.cons_append, List.nil_append,
      twoDigits_eq_nil (onlyDigits_plainDigit? _ _) hrest,
      oneDigit_plain ⟨hn.1, Nat.le_of_lt_succ hsmall⟩]
    rfl
  · simp only [readMonth, List.cons_append, List.nil_append, List.head?_append,
      head?_twoDigits_plain (show n < 100 by omega)]
    split_ifs <;> first | rfl | omega

theorem head?_readHour (hpiece : IsNumeral n piece) (hn : n < 24) (hrest : NoDigitFirst rest) :
    (readHour (piece ++ rest)).head? = some (n, rest) := by
  rcases hpiece.cases (by omega) with ⟨hsmall, rfl⟩ | rfl
  · simp only [readHour, List.cons_append, List.nil_append,
      twoDigits_eq_nil (onlyDigits_plainDigit? _ _) hrest,
      twoDigits_eq_nil onlyDigits_anyDigit? hrest, oneDigit_any hsmall]
    rfl
  · simp only [readHour, List.cons_append, List.nil_append, List.head?_append,
      head?_twoDigits_plain (show n < 100 by omega), head?_twoDigits_any (show n < 100 by omega)]
    split_ifs <;> first | rfl | omega

theorem head?_readMinute (hpiece : IsNumeral n piece) (hn : n < 60) (hrest : NoDigitFirst rest) :
    (readMinute (piece ++ rest)).head? = some (n, rest) := by
  rcases hpiece.cases (by omega) with ⟨hsmall, rfl⟩ | rfl
  · simp only [readMinute, List.cons_append, List.nil_append,
      twoDigits_eq_nil onlyDigits_anyDigit? hrest, oneDigit_any hsmall]
    rfl
  · simp only [readMinute, List.cons_append, List.nil_append, List.head?_append,
      head?_twoDigits_any (show n < 100 by omega)]
    split_ifs <;> first | rfl | omega

theorem head?_readSecond (hpiece : IsNumeral n piece) (hn : n < 60) (hrest : NoDigitFirst rest) :
    (readSecond (piece ++ rest)).head? = some (n, rest) := by
  have hminute := head?_readMinute hpiece hn hrest
  rcases hpiece.cases (by omega) with ⟨hsmall, rfl⟩ | rfl
  · rw [readSecond, List.head?_append, hminute, List.cons_append, List.nil_append,
      twoDigits_eq_nil (onlyDigits_plainDigit? _ _) hrest]
    rfl
  · rw [readSecond, List.head?_append, hminute, List.cons_append, List.cons_append, List.nil_append,
      head?_twoDigits_plain (show n < 100 by omega)]
    split_ifs
    · omega
    · rfl

theorem readYear_padStart (hn : n < 10000) :
    readYear (Text.padStart 4 '0' (Text.ofNat n) ++ rest) = [(n, rest)] := by
  have hdigit : ∀ k, anyDigit? (k % 10).digitChar = some (k % 10) := fun k =>
    (digitChar_spec (k % 10) (Nat.mod_lt k (by decide))).2.2
  have hfirst : anyDigit? (n / 1000).digitChar = some (n / 1000) :=
    (digitChar_spec (n / 1000) (by omega)).2.2
  have hvalue : 1000 * (n / 1000) + 100 * (n / 100 % 10) + 10 * (n / 10 % 10) + n % 10 = n := by
    omega
  rw [padStart_four hn]
  simp only [readYear, List.cons_append, List.nil_append, hfirst, hdigit, hvalue]

end

theorem beginsWith_iff {word text : Text} :
    beginsWith word text ↔ word <+: text.map Char.toLower := by
  rw [beginsWith, beq_iff_eq, List.map_take, List.prefix_iff_eq_take, eq_comm]

/-- A name is read in any case: no other name of the list begins the text. -/
theorem head?_readName {names : List Text} {i : Nat} {piece : Text} (rest : Text)
    (hnames : names.Pairwise fun a b => ¬ a <+: b ∧ ¬ b <+: a)
    (hpiece : names[i]? = some (piece.map Char.toLower)) :
    (readName names (piece ++ rest)).head? = some (i + 1, rest) := by
  obtain ⟨hi, hname⟩ := List.getElem?_eq_some_iff.mp hpiece
  have hsplit : names = names.take i ++ piece.map Char.toLower :: names.drop (i + 1) := by
    rw [← hname, ← List.drop_eq_getElem_cons hi, List.take_append_drop]
  have hlength : (names.take i).length = i := by
    rw [List.length_take, Nat.min_eq_left hi.le]
  have hhere : beginsWith (piece.map Char.toLower) (piece ++ rest) := by
    rw [beginsWith_iff, List.map_append]
    exact List.prefix_append _ _
  rw [readName, List.head?_filterMap, List.findSome?_eq_some_iff]
  refine ⟨(names.take i).zipIdx 1, (piece.map Char.toLower, 1 + i),
    (names.drop (i + 1)).zipIdx (1 + i + 1), ?_, ?_, ?_⟩
  · conv_lhs => rw [hsplit]
    rw [List.zipIdx_append, hlength, List.zipIdx_cons]
  · dsimp only
    rw [if_pos hhere, List.length_map, List.drop_left, Nat.add_comm]
  · rintro ⟨name, month⟩ hother
    refine if_neg fun hbegins => ?_
    rw [hsplit, List.pairwise_append] at hnames
    obtain ⟨hbefore, hafter⟩ :=
      hnames.2.2 name (List.fst_mem_of_mem_zipIdx hother) _ List.mem_cons_self
    rcases List.prefix_or_prefix_of_prefix (beginsWith_iff.mp hbegins)
      (beginsWith_iff.mp hhere) with hprefix | hprefix
    · exact hbefore hprefix
    · exact hafter hprefix

theorem pairwise_monthNames : monthNames.Pairwise fun a b => ¬ a <+: b ∧ ¬ b <+: a := by
  decide

theorem pairwise_monthAbbreviations :
    monthAbbreviations.Pairwise fun a b => ¬ a <+: b ∧ ¬ b <+: a := by
  decide

/-- A gap takes all the blanks. -/
theorem head?_afterBlanks {piece rest : Text} (hne : piece ≠ [])
    (hpiece : ∀ c ∈ piece, Text.isBlank c) (hrest : ∀ c ∈ rest.head?, ¬ Text.isBlank c) :
    (afterBlanks (piece ++ rest)).head? = some rest := by
  have hnone : afterBlanks rest = [] := by
    cases rest with
    | nil => rfl
    | cons c rest => rw [afterBlanks, if_neg (hrest c rfl)]
  induction piece with
  | nil => exact absurd rfl hne
  | cons c piece ih =>
    obtain ⟨hc, hblanks⟩ := List.forall_mem_cons.mp hpiece
    rw [List.cons_append, afterBlanks, if_pos hc, List.head?_append]
    cases piece with
    | nil => rw [List.nil_append, hnone]; rfl
    | cons d piece => rw [ih (List.cons_ne_nil _ _) hblanks]; rfl

/-- What a layout has read when it has read a field of the moment. -/
def Field.put (m : Moment) (r : Reading) : Field → Reading
  | year => { r with year := m.date.year }
  | month | monthName | monthAbbreviation => { r with month := m.date.month }
  | day => { r with day := m.date.day }
  | hour => { r with hour := m.clock.hour }
  | minute => { r with minute := m.clock.minute }
  | second => { r with second := m.clock.second }
  | gap | fixed _ => r

/-- Whether the field is a number. -/
def Field.isNumber : Field → Bool
  | year | month | day | hour | minute | second => true
  | _ => false

/-- The text does not go on with what the field would take too. -/
structure Field.StopsAt (field : Field) (rest : Text) : Prop where
  digit : field.isNumber → NoDigitFirst rest
  blank : field = .gap → ∀ c ∈ rest.head?, ¬ Text.isBlank c

/-- A field reads back the piece that shows it. -/
theorem Field.head?_read {m : Moment} {field : Field} {piece rest : Text}
    (hshows : field.Shows m piece) (hstop : field.StopsAt rest) (r : Reading) :
    (field.read r (piece ++ rest)).head? = some (field.put m r, rest) := by
  obtain ⟨⟨-, hyear⟩, hmonth, hday, hlast⟩ := m.isValid_date
  obtain ⟨hhour, hminute, hsecond, -⟩ := m.isValid_clock
  have hname : m.date.month - 1 + 1 = m.date.month := Nat.sub_add_cancel hmonth.1
  cases field <;> simp only [read, List.head?_map]
  case year =>
    obtain rfl : piece = _ := hshows
    rw [readYear_padStart (Nat.lt_succ_of_le hyear)]
    rfl
  case month =>
    rw [head?_readMonth hshows hmonth (hstop.digit rfl)]
    rfl
  case monthName =>
    rw [head?_readName rest pairwise_monthNames hshows, hname]
    rfl
  case monthAbbreviation =>
    rw [head?_readName rest pairwise_monthAbbreviations hshows, hname]
    rfl
  case day =>
    rw [head?_readDay hshows ⟨hday, hlast.trans (daysInMonth_le _ _)⟩ (hstop.digit rfl)]
    rfl
  case hour =>
    rw [head?_readHour hshows hhour (hstop.digit rfl)]
    rfl
  case minute =>
    rw [head?_readMinute hshows hminute (hstop.digit rfl)]
    rfl
  case second =>
    rw [head?_readSecond hshows hsecond (hstop.digit rfl)]
    rfl
  case gap =>
    rw [head?_afterBlanks hshows.1 hshows.2 (hstop.blank rfl)]
    rfl
  case fixed c =>
    obtain rfl : piece = [c] := hshows
    rw [List.singleton_append]
    dsimp only
    rw [if_pos rfl]
    rfl

theorem IsNumeral.digits {n : Nat} {piece : Text} (hpiece : IsNumeral n piece) :
    Text.Digits piece := by
  rcases hpiece with rfl | rfl
  · exact Text.digits_ofNat n
  · exact Text.digits_padStart 2 (Text.digits_ofNat n)

section

variable {m : Moment} {field next : Field} {piece : Text}

theorem Field.Shows.digits (hshows : field.Shows m piece) (hnumber : field.isNumber) :
    Text.Digits piece := by
  cases field
  case year =>
    obtain rfl : piece = _ := hshows
    exact Text.digits_padStart 4 (Text.digits_ofNat _)
  case month | day | hour | minute | second => exact IsNumeral.digits hshows
  all_goals cases hnumber

/-- What shows a field is a piece that the field takes. -/
theorem Field.Shows.covers (hshows : field.Shows m piece) : field.Covers piece := by
  have hstop : field.StopsAt [] := ⟨fun _ => nofun, fun _ => nofun⟩
  obtain ⟨others, hread⟩ := List.head?_eq_some_iff.mp (head?_read hshows hstop {})
  have hmem : (field.put m {}, []) ∈ field.read {} (piece ++ []) := hread ▸ List.mem_cons_self
  obtain ⟨taken, htext, hcovers⟩ := takesOff_of_mem_read hmem
  rw [List.append_left_inj] at htext
  exact htext ▸ hcovers

/-- Whether the pieces of the field begin with no digit. -/
def Field.partsDigits : Field → Bool
  | gap => true
  | fixed c => !Text.isDecimalDigit c
  | _ => false

/-- The field cannot take more than its own piece when the other field comes next. -/
def Field.EndsBefore (field next : Field) : Prop :=
  (field.isNumber → next.partsDigits) ∧ (field = .gap → next.isNumber)

instance : DecidableRel Field.EndsBefore :=
  fun _ _ => inferInstanceAs (Decidable (_ ∧ _))

theorem Field.EndsBefore.stopsAt (hends : field.EndsBefore next) (hshows : next.Shows m piece)
    (rest : Text) : field.StopsAt (piece ++ rest) := by
  obtain ⟨c, tail, rfl⟩ := List.exists_cons_of_ne_nil hshows.covers.1
  constructor
  · rintro hnumber d ⟨rfl⟩ hdigit
    have hparts := hends.1 hnumber
    cases next
    case gap =>
      exact DatePhrase.not_isDecimalDigit_of_isBlank (hshows.2 c List.mem_cons_self) hdigit
    case fixed d =>
      obtain ⟨rfl, -⟩ := List.cons.inj hshows
      rw [partsDigits, hdigit] at hparts
      cases hparts
    all_goals cases hparts
  · rintro hgap d ⟨rfl⟩
    exact Text.not_isBlank_of_isPlainDigit
      ((hshows.digits (hends.2 hgap)).plain c List.mem_cons_self)

theorem not_isBlank_of_letter {c : Char} (hc : 'a' ≤ c && c ≤ 'z') : ¬ Text.isBlank c := by
  simp only [Bool.and_eq_true, decide_eq_true_eq, Char.le_def, UInt32.le_iff_toNat_le] at hc
  obtain ⟨hlow, hhigh⟩ := hc
  change 97 ≤ c.toNat at hlow
  change c.toNat ≤ 122 at hhigh
  simp only [Text.isBlank, Bool.or_eq_true, Bool.and_eq_true, decide_eq_true_eq, beq_iff_eq]
  omega

/-- Whether the pieces of the field have no blanks. -/
def Field.isSolid : Field → Bool
  | gap => false
  | fixed c => !Text.isBlank c
  | _ => true

theorem Field.Shows.not_isBlank (hshows : field.Shows m piece) (hsolid : field.isSolid) :
    ∀ c ∈ piece, ¬ Text.isBlank c := by
  intro c hc hblank
  cases field
  case monthName | monthAbbreviation =>
    have hletter := hshows.covers.2 c hc
    rw [toLower_of_isBlank hblank] at hletter
    exact not_isBlank_of_letter hletter hblank
  case gap => cases hsolid
  case fixed d =>
    obtain rfl : piece = [d] := hshows
    obtain rfl := List.mem_singleton.mp hc
    rw [isSolid, hblank] at hsolid
    cases hsolid
  all_goals exact Text.not_isBlank_of_isPlainDigit ((hshows.digits rfl).plain c hc) hblank

end

/-- A row of pieces is read piece by piece. -/
theorem readFields_flatten {m : Moment} {fields : List Field} {pieces : List Text}
    (hrow : List.Forall₂ (fun field piece => field.Shows m piece) fields pieces)
    (hchain : fields.IsChain Field.EndsBefore) (r : Reading) :
    readFields fields r pieces.flatten = some (fields.foldl (Field.put m) r, []) := by
  induction hrow generalizing r with
  | nil => rfl
  | @cons field piece fields pieces hshows hrow ih =>
    obtain ⟨hends, hchain⟩ := List.isChain_cons.mp hchain
    -- The next piece or the end of the text stops the field, so that its first choice is its own
    -- piece and no other choice is ever tried.
    have hstop : field.StopsAt pieces.flatten := by
      cases hrow with
      | nil => exact ⟨fun _ => nofun, fun _ => nofun⟩
      | cons hnext _ => exact (hends _ rfl).stopsAt hnext _
    obtain ⟨others, hread⟩ := List.head?_eq_some_iff.mp (field.head?_read hshows hstop r)
    rw [List.flatten_cons, readFields, hread, List.findSome?_cons]
    dsimp only
    rw [ih hchain, List.foldl_cons]

/-- The piece at an end of a row has no blanks. -/
theorem not_isBlank_of_findSome? {m : Moment} {fields : List Field} {pieces : List Text}
    (hrow : List.Forall₂ (fun field piece => field.Shows m piece) fields pieces)
    (hsolid : ∀ field ∈ fields.head?, field.isSolid) {pick : Text → Option Char}
    (hpick : ∀ piece, pick piece = none ↔ piece = []) (hmem : ∀ piece, ∀ c ∈ pick piece, c ∈ piece)
    {c : Char} (hc : pieces.findSome? pick = some c) : ¬ Text.isBlank c := by
  cases hrow with
  | nil => cases hc
  | @cons field piece fields pieces hshows _ =>
    cases hfirst : pick piece with
    | none => exact absurd ((hpick piece).mp hfirst) hshows.covers.1
    | some d =>
      rw [List.findSome?_cons, hfirst, Option.some.injEq] at hc
      subst hc
      exact hshows.not_isBlank (hsolid field rfl) d (hmem piece d hfirst)

namespace Layout

variable {layout : Layout} {m : Moment} {text : Text}

theorem isChain_fields (layout : Layout) : layout.fields.IsChain Field.EndsBefore := by
  cases layout <;> decide

/-- A layout reads the moment that it shows. -/
theorem Writes.read? (hwrites : layout.Writes m text) (hwhole : m.clock.micro = 0) (now : Moment) :
    layout.read? now.date text = some (layout.shown now m) := by
  obtain ⟨pieces, rfl, hrow⟩ := hwrites
  have hclock : (⟨m.clock.hour, m.clock.minute, m.clock.second, 0⟩ : Clock) = m.clock := by
    rw [← hwhole]
  unfold Layout.read?
  rw [readFields_flatten hrow layout.isChain_fields]
  cases layout
  case date | slashes | short => exact m.of?_date_midnight
  case clock =>
    change Moment.of? now.date ⟨m.clock.hour, m.clock.minute, m.clock.second, 0⟩ = _
    rw [hclock, now.of?_date_clock]
    rfl
  case dateTime | stamp | long =>
    change Moment.of? m.date ⟨m.clock.hour, m.clock.minute, m.clock.second, 0⟩ = _
    rw [hclock, m.of?_date_clock, m.atTimeOf_self]
    rfl

/-- A moment is read in the layout in which it is written, and in no other. -/
theorem Writes.readMoment? (hwrites : layout.Writes m text) (hwhole : m.clock.micro = 0)
    (now : Moment) : readMoment? now text = some (layout.shown now m) :=
  readMoment?_eq_some_iff.mpr ⟨layout, hwrites.read? hwhole now⟩

/-- A written moment has no blanks around it. -/
theorem Writes.trim_eq (hwrites : layout.Writes m text) : Text.trim text = text := by
  obtain ⟨pieces, rfl, hrow⟩ := hwrites
  have hfirst : ∀ field ∈ layout.fields.head?, field.isSolid := by
    cases layout <;> decide
  have hlast : ∀ field ∈ layout.fields.reverse.head?, field.isSolid := by
    cases layout <;> decide
  refine Text.trimBy_eq_self (fun c hc => ?_) fun c hc => ?_
  · rw [List.head?_flatten] at hc
    exact not_isBlank_of_findSome? hrow hfirst (fun _ => List.head?_eq_none_iff)
      (fun _ _ => List.mem_of_head?) hc
  · rw [List.getLast?_flatten] at hc
    exact not_isBlank_of_findSome? (List.forall₂_reverse_iff.mpr hrow) hlast
      (fun _ => List.getLast?_eq_none_iff) (fun _ _ => List.mem_of_getLast?) hc

end Layout

end Calendar

namespace DateRange

open Calendar

/-- A record with a text is selected if the moment that the text stands for lies in the range. -/
theorem selects_eq_of_text {range : DateRange} {asked m : Moment} {record : Record}
    {field text : Text} (hfield : range.field = some field)
    (hlookup : record.lookup field = some (.text text))
    (hread : readMoment? asked (Text.trim text) = some m) :
    range.selects asked record = range.interval.holds m := by
  simp only [selects, hfield, hlookup, Option.any_some, holdsValue, hread]

/-- A moment in whole seconds that is written in a layout is read back as far as the layout shows
    it, and no other layout reads its text. If the layout has a date, a range of dates keeps a
    record with that text exactly if it holds the moment itself, with its time of day. -/
theorem readDate_of_writes (layout : Layout) (now m : Moment) {text : Text}
    (hwhole : m.clock.micro = 0) (hwrites : layout.Writes m text) :
    readDate now text = .ok (layout.shown now m) ∧
      (∀ other, other ≠ layout → other.read? now.date text = none) ∧
      (layout ≠ .clock → ∀ (range : DateRange) (field : Text) (record : Record) (asked : Moment),
        range.field = some field → record.lookup field = some (.text text) →
          range.selects asked record = range.interval.holds (layout.shown now m)) := by
  refine ⟨?_, ?_, ?_⟩
  · rw [readDate, hwrites.readMoment? hwhole now]
  · exact fun other hother => Layout.read?_eq_none_of_ne (hwrites.read? hwhole now) hother
  · intro hdate range field record asked hfield hlookup
    have hshown : layout.shown asked m = layout.shown now m := by
      cases layout
      case clock => exact absurd rfl hdate
      all_goals rfl
    refine selects_eq_of_text hfield hlookup ?_
    rw [hwrites.trim_eq, hwrites.readMoment? hwhole asked, hshown]

/-- A leap day of a year with three digits, in a long layout with a short minute, two blanks and a
    month name in mixed case. Of a range that is this one second, the record is kept. -/
theorem readDate_of_longLayout :
    let m : Moment := ⟨145790 * dayMicros + 18367000000, by decide⟩
    let text := "fEBRUARY \t29, 0400 5:6:07".toList
    (m.date = ⟨400, 2, 29⟩ ∧ m.clock = ⟨5, 6, 7, 0⟩) ∧ Layout.long.Writes m text ∧
      readDate default text = .ok m ∧
      (⟨⟨m, m⟩, some "at".toList⟩ : DateRange).selects default [("at".toList, .text text)] := by
  intro m text
  have hwrites : Layout.long.Writes m text :=
    ⟨["fEBRUARY".toList, " \t".toList, "29".toList, [','], [' '], "0400".toList, [' '], ['5'],
      [':'], ['6'], [':'], "07".toList], by decide, by decide⟩
  obtain ⟨hread, -, hselects⟩ := readDate_of_writes .long default m (by decide) hwrites
  refine ⟨by decide, hwrites, hread, ?_⟩
  rw [hselects (by decide) ⟨⟨m, m⟩, some "at".toList⟩ "at".toList [("at".toList, .text text)]
    default rfl List.lookup_cons_self]
  decide

end DateRange

end RecordFilter
