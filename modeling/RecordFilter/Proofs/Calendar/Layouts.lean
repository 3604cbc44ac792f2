import RecordFilter.Calendar.Layout
import RecordFilter.Proofs.Outcome
import RecordFilter.Proofs.Quantity.NumberText

/-!
Which layout a text has.

A field takes a piece of the text with characters of its own kind only, and a fixed character takes
that character. Of any two layouts one has a fixed character that no field of the other takes, so no
text has two layouts, and the order in which they are tried does not matter.
-/

namespace RecordFilter.Calendar

/-- The characters that a field takes, letters in their small form. -/
def Field.takes (c : Char) : Field → Bool
  | year | month | hour | minute | second => Text.isDecimalDigit c
  | day => Text.isDecimalDigit c || c == ' '
  | monthName | monthAbbreviation => 'a' ≤ c && c ≤ 'z'
  | gap => Text.isBlank c
  | fixed d => c == d.toLower

/-- The piece is one or more characters that the field takes. -/
def Field.Covers (field : Field) (piece : Text) : Prop :=
  piece ≠ [] ∧ ∀ c ∈ piece, field.takes c.toLower

/-- The text is a piece that the field takes, and the rest. -/
def Field.TakesOff (field : Field) (text rest : Text) : Prop :=
  ∃ piece, text = piece ++ rest ∧ field.Covers piece

theorem toLower_of_isDecimalDigit {c : Char} (hc : Text.isDecimalDigit c) : c.toLower = c := by
  have hapart : ∀ start ∈ Text.zeroPoints, start = 48 ∨ 90 < start := by decide
  rw [Text.isDecimalDigit, Text.digitValue?, Option.isSome_map, List.find?_isSome] at hc
  obtain ⟨start, hstart, hin⟩ := hc
  have hplace := hapart start hstart
  rw [Bool.and_eq_true, decide_eq_true_iff, decide_eq_true_iff] at hin
  exact Char.toNat_inj.mp (by rw [toNat_toLower, if_neg (by omega)])

theorem toLower_of_isBlank {c : Char} (hc : Text.isBlank c) : c.toLower = c := by
  simp only [Text.isBlank, Bool.or_eq_true, Bool.and_eq_true, decide_eq_true_eq, beq_iff_eq] at hc
  exact Char.toNat_inj.mp (by rw [toNat_toLower, if_neg (by omega)])

theorem isDecimalDigit_of_isPlainDigit {c : Char} (hc : Text.isPlainDigit c) :
    Text.isDecimalDigit c := by
  have hrange := Text.isPlainDigit_iff.mp hc
  rw [Text.isDecimalDigit, Text.digitValue?, Option.isSome_map, List.find?_isSome]
  exact ⟨48, by decide, by simp only [Bool.and_eq_true, decide_eq_true_eq]; omega⟩

/-- The reader of one digit accepts nothing but digits. -/
def OnlyDigits (digit : Char → Option Nat) : Prop :=
  ∀ c n, digit c = some n → Text.isDecimalDigit c

theorem onlyDigits_plainDigit? (low high : Nat) : OnlyDigits (plainDigit? low high) := by
  intro c n hc
  rw [plainDigit?] at hc
  split_ifs at hc with hdigit
  rw [Bool.and_eq_true, Bool.and_eq_true] at hdigit
  exact isDecimalDigit_of_isPlainDigit hdigit.1.1

theorem onlyDigits_anyDigit? : OnlyDigits anyDigit? := by
  intro c n hc
  rw [Text.isDecimalDigit, ← anyDigit?, hc]
  rfl

/-- The text is one or more digits, and the rest. -/
def DigitsOff (text rest : Text) : Prop :=
  ∃ piece, text = piece ++ rest ∧ piece ≠ [] ∧ ∀ c ∈ piece, Text.isDecimalDigit c

theorem Field.takesOff_of_digitsOff (field : Field)
    (hfield : ∀ c, Text.isDecimalDigit c → field.takes c) {text rest : Text}
    (hdigits : DigitsOff text rest) : field.TakesOff text rest := by
  obtain ⟨piece, htext, hne, hall⟩ := hdigits
  refine ⟨piece, htext, hne, fun c hc => ?_⟩
  rw [toLower_of_isDecimalDigit (hall c hc)]
  exact hfield c (hall c hc)

section

variable {text rest : Text} {n : Nat}

theorem digitsOff_of_mem_twoDigits {low high : Nat} {second : Char → Option Nat}
    (hsecond : OnlyDigits second)
    (hmem : (n, rest) ∈ twoDigits low high second text) : DigitsOff text rest := by
  unfold twoDigits at hmem
  split at hmem
  case h_1 a b tail =>
    split at hmem
    case h_1 x y hx hy =>
      obtain ⟨-, rfl⟩ := Prod.mk.inj (List.mem_singleton.mp hmem)
      refine ⟨[a, b], rfl, List.cons_ne_nil _ _, ?_⟩
      simp only [List.mem_cons, List.not_mem_nil, or_false]
      rintro c (rfl | rfl)
      · exact onlyDigits_plainDigit? low high c x hx
      · exact hsecond c y hy
    · exact absurd hmem List.not_mem_nil
  · exact absurd hmem List.not_mem_nil

theorem digitsOff_of_mem_oneDigit {digit : Char → Option Nat}
    (hdigit : OnlyDigits digit)
    (hmem : (n, rest) ∈ oneDigit digit text) : DigitsOff text rest := by
  unfold oneDigit at hmem
  split at hmem
  case h_1 a tail =>
    obtain ⟨x, hx, hpair⟩ := List.mem_map.mp hmem
    obtain ⟨-, rfl⟩ := Prod.mk.inj hpair
    refine ⟨[a], rfl, List.cons_ne_nil _ _, ?_⟩
    simp only [List.mem_singleton, forall_eq]
    exact hdigit a x (Option.mem_toList.mp hx)
  · exact absurd hmem List.not_mem_nil

theorem digitsOff_of_mem_readMonth (hmem : (n, rest) ∈ readMonth text) : DigitsOff text rest := by
  simp only [readMonth, List.mem_append] at hmem
  rcases hmem with (hmem | hmem) | hmem
  · exact digitsOff_of_mem_twoDigits (onlyDigits_plainDigit? _ _) hmem
  · exact digitsOff_of_mem_twoDigits (onlyDigits_plainDigit? _ _) hmem
  · exact digitsOff_of_mem_oneDigit (onlyDigits_plainDigit? _ _) hmem

theorem digitsOff_of_mem_readHour (hmem : (n, rest) ∈ readHour text) : DigitsOff text rest := by
  simp only [readHour, List.mem_append] at hmem
  rcases hmem with (hmem | hmem) | hmem
  · exact digitsOff_of_mem_twoDigits (onlyDigits_plainDigit? _ _) hmem
  · exact digitsOff_of_mem_twoDigits onlyDigits_anyDigit? hmem
  · exact digitsOff_of_mem_oneDigit onlyDigits_anyDigit? hmem

theorem digitsOff_of_mem_readMinute (hmem : (n, rest) ∈ readMinute text) :
    DigitsOff text rest := by
  simp only [readMinute, List.mem_append] at hmem
  rcases hmem with hmem | hmem
  · exact digitsOff_of_mem_twoDigits onlyDigits_anyDigit? hmem
  · exact digitsOff_of_mem_oneDigit onlyDigits_anyDigit? hmem

theorem digitsOff_of_mem_readSecond (hmem : (n, rest) ∈ readSecond text) :
    DigitsOff text rest := by
  rcases List.mem_append.mp hmem with hmem | hmem
  · exact digitsOff_of_mem_twoDigits (onlyDigits_plainDigit? _ _) hmem
  · exact digitsOff_of_mem_readMinute hmem

theorem digitsOff_of_mem_readYear (hmem : (n, rest) ∈ readYear text) : DigitsOff text rest := by
  unfold readYear at hmem
  split at hmem
  case h_1 a b c d tail =>
    split at hmem
    case h_1 w x y z ha hb hc hd =>
      obtain ⟨-, rfl⟩ := Prod.mk.inj (List.mem_singleton.mp hmem)
      refine ⟨[a, b, c, d], rfl, List.cons_ne_nil _ _, ?_⟩
      simp only [List.mem_cons, List.not_mem_nil, or_false]
      rintro e (rfl | rfl | rfl | rfl)
      · exact onlyDigits_anyDigit? e w ha
      · exact onlyDigits_anyDigit? e x hb
      · exact onlyDigits_anyDigit? e y hc
      · exact onlyDigits_anyDigit? e z hd
    · exact absurd hmem List.not_mem_nil
  · exact absurd hmem List.not_mem_nil

/-- A day is digits, or one digit after a space. -/
theorem takesOff_of_mem_readDay (hmem : (n, rest) ∈ readDay text) :
    Field.day.TakesOff text rest := by
  have hdigits : DigitsOff text rest → Field.day.TakesOff text rest :=
    Field.takesOff_of_digitsOff .day fun c hc => by rw [Field.takes, hc, Bool.true_or]
  simp only [readDay, List.mem_append] at hmem
  rcases hmem with (((hmem | hmem) | hmem) | hmem) | hmem
  · exact hdigits (digitsOff_of_mem_twoDigits (onlyDigits_plainDigit? _ _) hmem)
  · exact hdigits (digitsOff_of_mem_twoDigits onlyDigits_anyDigit? hmem)
  · exact hdigits (digitsOff_of_mem_twoDigits (onlyDigits_plainDigit? _ _) hmem)
  · exact hdigits (digitsOff_of_mem_oneDigit (onlyDigits_plainDigit? _ _) hmem)
  · split at hmem
    case h_1 tail =>
      have hrest : DigitsOff tail rest :=
        digitsOff_of_mem_oneDigit (onlyDigits_plainDigit? _ _) hmem
      obtain ⟨piece, rfl, -, hall⟩ := hrest
      refine ⟨' ' :: piece, rfl, List.cons_ne_nil _ _, fun c hc => ?_⟩
      rcases List.mem_cons.mp hc with rfl | hc
      · rfl
      · rw [toLower_of_isDecimalDigit (hall c hc), Field.takes, hall c hc, Bool.true_or]
    · exact absurd hmem List.not_mem_nil

theorem takesOff_of_mem_readName {names : List Text}
    (hnames : ∀ name ∈ names, name ≠ [] ∧ ∀ c ∈ name, 'a' ≤ c ∧ c ≤ 'z')
    (hmem : (n, rest) ∈ readName names text) : Field.monthName.TakesOff text rest := by
  obtain ⟨⟨name, month⟩, hname, hread⟩ := List.mem_filterMap.mp hmem
  dsimp only at hread
  split_ifs at hread with hbegins
  obtain ⟨-, rfl⟩ := Prod.mk.inj (Option.some.inj hread)
  obtain ⟨hne, hletters⟩ := hnames name (List.fst_mem_of_mem_zipIdx hname)
  have hpiece : (text.take name.length).map Char.toLower = name := beq_iff_eq.mp hbegins
  refine ⟨text.take name.length, (List.take_append_drop _ _).symm, ?_, fun c hc => ?_⟩
  · rintro hempty
    rw [hempty] at hpiece
    exact hne hpiece.symm
  · have hletter := hletters c.toLower (hpiece ▸ List.mem_map_of_mem hc)
    simp only [Field.takes, Bool.and_eq_true, decide_eq_true_eq]
    exact hletter

theorem takesOff_of_mem_afterBlanks (hmem : rest ∈ afterBlanks text) :
    Field.gap.TakesOff text rest := by
  induction text with
  | nil => exact absurd hmem List.not_mem_nil
  | cons c tail ih =>
    rw [afterBlanks] at hmem
    split_ifs at hmem with hblank
    · have hfirst : Field.gap.takes c.toLower := by rwa [Field.takes, toLower_of_isBlank hblank]
      rcases List.mem_append.mp hmem with hmem | hmem
      · obtain ⟨piece, rfl, -, hall⟩ := ih hmem
        exact ⟨c :: piece, rfl, List.cons_ne_nil _ _, List.forall_mem_cons.mpr ⟨hfirst, hall⟩⟩
      · obtain rfl := List.mem_singleton.mp hmem
        exact ⟨[c], rfl, List.cons_ne_nil _ _, List.forall_mem_singleton.mpr hfirst⟩
    · exact absurd hmem List.not_mem_nil

end

/-- The names of the months are small letters. -/
theorem letters_of_mem_monthNames :
    ∀ name ∈ monthNames, name ≠ [] ∧ ∀ c ∈ name, 'a' ≤ c ∧ c ≤ 'z' := by
  decide

theorem letters_of_mem_monthAbbreviations :
    ∀ name ∈ monthAbbreviations, name ≠ [] ∧ ∀ c ∈ name, 'a' ≤ c ∧ c ≤ 'z' := by
  decide

/-- Every reading of a field takes a piece off the text. -/
theorem Field.takesOff_of_mem_read {field : Field} {r after : Reading} {text rest : Text}
    (hmem : (after, rest) ∈ field.read r text) : field.TakesOff text rest := by
  cases field <;> simp only [read, List.mem_map, Prod.mk.injEq, Prod.exists] at hmem
  case year =>
    obtain ⟨n, _, hn, -, rfl⟩ := hmem
    exact takesOff_of_digitsOff year (fun _ hc => hc) (digitsOff_of_mem_readYear hn)
  case month =>
    obtain ⟨n, _, hn, -, rfl⟩ := hmem
    exact takesOff_of_digitsOff month (fun _ hc => hc) (digitsOff_of_mem_readMonth hn)
  case monthName =>
    obtain ⟨n, _, hn, -, rfl⟩ := hmem
    exact takesOff_of_mem_readName letters_of_mem_monthNames hn
  case monthAbbreviation =>
    obtain ⟨n, _, hn, -, rfl⟩ := hmem
    exact takesOff_of_mem_readName letters_of_mem_monthAbbreviations hn
  case day =>
    obtain ⟨n, _, hn, -, rfl⟩ := hmem
    exact takesOff_of_mem_readDay hn
  case hour =>
    obtain ⟨n, _, hn, -, rfl⟩ := hmem
    exact takesOff_of_digitsOff hour (fun _ hc => hc) (digitsOff_of_mem_readHour hn)
  case minute =>
    obtain ⟨n, _, hn, -, rfl⟩ := hmem
    exact takesOff_of_digitsOff minute (fun _ hc => hc) (digitsOff_of_mem_readMinute hn)
  case second =>
    obtain ⟨n, _, hn, -, rfl⟩ := hmem
    exact takesOff_of_digitsOff second (fun _ hc => hc) (digitsOff_of_mem_readSecond hn)
  case gap =>
    obtain ⟨_, htail, -, rfl⟩ := hmem
    exact takesOff_of_mem_afterBlanks htail
  case fixed d =>
    cases text with
    | nil => exact absurd hmem List.not_mem_nil
    | cons c tail =>
      dsimp only at hmem
      split_ifs at hmem with hsame
      · obtain ⟨-, rfl⟩ := Prod.mk.inj (List.mem_singleton.mp hmem)
        exact ⟨[c], rfl, List.cons_ne_nil _ _, List.forall_mem_singleton.mpr (beq_iff_eq.mpr hsame)⟩
      · exact absurd hmem List.not_mem_nil

/-- The fields of a layout take the text off piece by piece. -/
theorem exists_pieces_of_readFields {fields : List Field} {r after : Reading} {text rest : Text}
    (hread : readFields fields r text = some (after, rest)) :
    ∃ pieces : List Text, text = pieces.flatten ++ rest ∧
      List.Forall₂ Field.Covers fields pieces := by
  induction fields generalizing r text with
  | nil =>
    obtain ⟨-, rfl⟩ := Prod.mk.inj (Option.some.inj hread)
    exact ⟨[], rfl, .nil⟩
  | cons field fields ih =>
    obtain ⟨⟨next, tail⟩, hmem, hrest⟩ := List.exists_of_findSome?_eq_some hread
    obtain ⟨piece, rfl, hpiece⟩ := Field.takesOff_of_mem_read hmem
    obtain ⟨pieces, rfl, hpieces⟩ := ih hrest
    exact ⟨piece :: pieces, by rw [List.flatten_cons, List.append_assoc], .cons hpiece hpieces⟩

namespace Layout

variable {layout first second : Layout} {text : Text} {c : Char}

theorem exists_pieces_of_read? {today : Date} {m : Moment}
    (hread : layout.read? today text = some m) :
    ∃ pieces : List Text, text = pieces.flatten ∧
      List.Forall₂ Field.Covers layout.fields pieces := by
  unfold read? at hread
  split at hread
  case h_1 r hfields =>
    obtain ⟨pieces, htext, hpieces⟩ := exists_pieces_of_readFields hfields
    exact ⟨pieces, by rw [htext, List.append_nil], hpieces⟩
  · cases hread

/-- A layout has only texts of characters that its fields take. -/
theorem exists_takes_of_read? {today : Date} {m : Moment}
    (hread : layout.read? today text = some m) (hc : c ∈ text) :
    ∃ field ∈ layout.fields, field.takes c.toLower := by
  obtain ⟨pieces, rfl, hpieces⟩ := exists_pieces_of_read? hread
  obtain ⟨piece, hpiece, hmem⟩ := List.mem_flatten.mp hc
  obtain ⟨field, hfield, -, htakes⟩ := exists_mem_of_forall₂ hpieces piece hpiece
  exact ⟨field, hfield, htakes c hmem⟩

/-- The fixed characters of a layout. -/
def marks (layout : Layout) : List Char :=
  layout.fields.filterMap fun field => match field with
    | .fixed c => some c
    | _ => none

theorem fixed_mem_of_mem_marks (hc : c ∈ layout.marks) : .fixed c ∈ layout.fields := by
  obtain ⟨field, hfield, hmark⟩ := List.mem_filterMap.mp hc
  split at hmark
  · rwa [← Option.some.inj hmark]
  · cases hmark

/-- A text of a layout has all its fixed characters. -/
theorem exists_mem_of_mem_marks {today : Date} {m : Moment}
    (hread : layout.read? today text = some m) (hc : c ∈ layout.marks) :
    ∃ d ∈ text, d.toLower = c.toLower := by
  obtain ⟨pieces, rfl, hpieces⟩ := exists_pieces_of_read? hread
  obtain ⟨piece, hpiece, hne, htakes⟩ :=
    exists_mem_of_forall₂ hpieces.flip _ (fixed_mem_of_mem_marks hc)
  obtain ⟨d, rest, rfl⟩ := List.exists_cons_of_ne_nil hne
  exact ⟨d, List.mem_flatten_of_mem hpiece List.mem_cons_self,
    beq_iff_eq.mp (htakes d List.mem_cons_self)⟩

/-- One layout has a fixed character that no field of the other takes. -/
def Apart (first second : Layout) : Prop :=
  ∃ c ∈ first.marks, ∀ field ∈ second.fields, ¬ field.takes c.toLower

instance (first second : Layout) : Decidable (Apart first second) :=
  List.decidableBEx _ _

/-- Of any two layouts one has a character that the other has no place for. -/
theorem apart_or_apart (hne : first ≠ second) : Apart first second ∨ Apart second first := by
  cases first <;> cases second <;> first | exact absurd rfl hne | decide

theorem Apart.read?_eq_none (hapart : Apart first second) {today : Date} {m : Moment}
    (hread : first.read? today text = some m) (other : Date) : second.read? other text = none := by
  obtain ⟨c, hc, hno⟩ := hapart
  refine Option.eq_none_iff_forall_ne_some.mpr fun n hother => ?_
  obtain ⟨d, hd, hsame⟩ := exists_mem_of_mem_marks hread hc
  obtain ⟨field, hfield, htakes⟩ := exists_takes_of_read? hother hd
  exact hno field hfield (hsame ▸ htakes)

/-- No text has two layouts. -/
theorem read?_eq_none_of_ne {today : Date} {m : Moment} (hread : first.read? today text = some m)
    (hne : second ≠ first) : second.read? today text = none := by
  rcases apart_or_apart hne with hapart | hapart
  · refine Option.eq_none_iff_forall_ne_some.mpr fun n hother => ?_
    rw [hapart.read?_eq_none hother today] at hread
    cases hread
  · exact hapart.read?_eq_none hread today

end Layout

/-- The order of the layouts does not matter: the moment of a text is that of the layout which the
    text has. -/
theorem readMoment?_eq_some_iff {now m : Moment} {text : Text} :
    readMoment? now text = some m ↔ ∃ layout : Layout, layout.read? now.date text = some m := by
  constructor
  · intro hread
    obtain ⟨layout, -, hlayout⟩ := List.exists_of_findSome?_eq_some hread
    exact ⟨layout, hlayout⟩
  · rintro ⟨layout, hread⟩
    have hmem : layout ∈ layouts := by cases layout <;> decide
    have hsome : (readMoment? now text).isSome := by
      rw [readMoment?, List.findSome?_isSome_iff]
      exact ⟨layout, hmem, hread ▸ rfl⟩
    -- Some layout is the first to read the text, and it can be no other than this one.
    obtain ⟨n, hn⟩ := Option.isSome_iff_exists.mp hsome
    obtain ⟨other, -, hother⟩ := List.exists_of_findSome?_eq_some hn
    by_cases hsame : other = layout
    · rw [hn, ← hother, hsame, hread]
    · rw [Layout.read?_eq_none_of_ne hread hsame] at hother
      cases hother

end RecordFilter.Calendar
