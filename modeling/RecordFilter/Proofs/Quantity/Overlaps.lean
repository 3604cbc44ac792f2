import RecordFilter.Proofs.Quantity.Cascade
import RecordFilter.Proofs.Quantity.Minutes

/-!
The texts that more than one kind accepts.

The kinds are tried in a fixed order, and the order matters for the texts that two kinds accept.
These are integers, plain numbers, a zero or a one on its own, and numbers of minutes, and each of
them is accepted by the kinds that `Scalar.Shared` lists. So a duration in clock form is read as
one wherever it stands, and a compact duration unless it is a zero or a number of minutes.
-/

namespace RecordFilter

/-- A zero on its own, with or without a sign. -/
def Numeral.zeros : List Text :=
  ["0".toList, "+0".toList, "-0".toList]

namespace Scalar

variable {t : Text} {kind : Kind} {s : Scalar}

/-- Whether a kind accepts a text. -/
def accepts (kind : Kind) (t : Text) : Bool :=
  (readAs kind t).toOption.isSome

/-- The kinds that accept a text, in the order in which they are tried. -/
def acceptedAs (t : Text) : List Kind :=
  order.filter (accepts · t)

theorem accepts_of_readAs (hread : readAs kind t = .ok s) : accepts kind t := by
  rw [accepts, hread]
  rfl

/-- A text is read as the first kind that accepts it. -/
theorem read_of_acceptedAs {others : List Kind} (haccepted : acceptedAs t = kind :: others)
    (hread : readAs kind t = .ok s) : read t = s := by
  obtain ⟨before, after, horder, hbefore, -, -⟩ := List.filter_eq_cons_iff.mp haccepted
  refine read_eq_of_readAs horder hread fun other hother => ?_
  simpa [accepts] using hbefore other hother

theorem mem_words_of_accepts (haccepts : accepts .boolean t) :
    t ∈ Quantity.trueWords ++ Quantity.falseWords := by
  obtain ⟨b, hread⟩ := isSome_toOption_map_iff.mp haccepts
  rw [Quantity.readBoolean] at hread
  split_ifs at hread with htrue hfalse
  · exact List.mem_append_left _ htrue
  · exact List.mem_append_right _ hfalse

/-- A plain number is a number, with and without a sign. -/
theorem accepts_float_of_isPlain (ht : Numeral.isPlain (Numeral.takeSign t).2) :
    accepts .float t := by
  obtain ⟨x, hread⟩ := Numeral.exists_readFloat?_of_isPlain ht
  rw [← Quantity.toOption_readFloat, toOption_eq_some_iff] at hread
  exact isSome_toOption_map_iff.mpr ⟨x, hread⟩

/-- A number that is a size is a plain number. -/
theorem isPlain_of_accepts (hfloat : accepts .float t) (hmemory : accepts .memory t) :
    Numeral.isPlain t := by
  obtain ⟨x, hx⟩ := isSome_toOption_map_iff.mp hfloat
  obtain ⟨n, hn⟩ := isSome_toOption_map_iff.mp hmemory
  rw [← toOption_eq_some_iff, Quantity.toOption_readFloat] at hx
  rw [← toOption_eq_some_iff, Numeral.readSize_of_readFloat? hx] at hn
  by_contra hnot
  rw [if_neg hnot] at hn
  cases hn

/-- A number that is a compact duration is a zero on its own. -/
theorem takeSign_of_accepts (hfloat : accepts .float t) (hduration : accepts .duration t) :
    (Numeral.takeSign t).2 = ['0'] := by
  obtain ⟨x, hx⟩ := isSome_toOption_map_iff.mp hfloat
  obtain ⟨d, hd⟩ := isSome_toOption_map_iff.mp hduration
  rw [← toOption_eq_some_iff, Quantity.toOption_readFloat] at hx
  by_contra hzero
  rw [← toOption_eq_some_iff, Numeral.readCompact_toOption_of_readFloat? hx hzero] at hd
  cases hd

/-- Clock forms have a colon, and no text of another kind has one. -/
theorem colon_mem_iff_of_accepts (hkind : kind ∈ order) (haccepts : accepts kind t) :
    ':' ∈ t ↔ kind = .clusterDuration := by
  simp only [order, List.mem_cons, List.not_mem_nil, or_false] at hkind
  rcases hkind with rfl | rfl | rfl | rfl | rfl | rfl
  · obtain ⟨i, hread⟩ := isSome_toOption_map_iff.mp haccepts
    refine iff_of_false (fun hcolon => ?_) (by decide)
    exact absurd (Quantity.characters_of_readInteger hread ':' hcolon) (by decide)
  · obtain ⟨x, hread⟩ := isSome_toOption_map_iff.mp haccepts
    rw [← toOption_eq_some_iff, Quantity.toOption_readFloat] at hread
    refine iff_of_false (fun hcolon => ?_) (by decide)
    exact (Numeral.isNumberChar_of_readFloat? hread ':' hcolon).2.2 rfl
  · have hwords : ∀ word ∈ Quantity.trueWords ++ Quantity.falseWords, ':' ∉ word := by decide
    exact iff_of_false (hwords t (mem_words_of_accepts haccepts)) (by decide)
  · obtain ⟨n, hread⟩ := isSome_toOption_map_iff.mp haccepts
    exact iff_of_false (Quantity.colon_not_mem_of_readSize hread) (by decide)
  · obtain ⟨d, hread⟩ := isSome_toOption_map_iff.mp haccepts
    exact iff_of_true ((Text.mem_trim_iff (by decide)).mp
      (Duration.characters_of_readCluster hread).1) rfl
  · obtain ⟨d, hread⟩ := isSome_toOption_map_iff.mp haccepts
    exact iff_of_false (Duration.colon_not_mem_of_readCompact hread) (by decide)

/-- The texts that two or more kinds accept, and these kinds. -/
inductive Shared (t : Text) : List Kind → Prop
  | integer (ht : Text.Digits (Numeral.takeSign t).2) : Shared t [.integer, .float]
  | whole (ht : Text.Digits t) : Shared t [.integer, .float, .memory]
  | decimal (ht : Numeral.isPlain t) : Shared t [.float, .memory]
  | one (ht : t = ['1']) : Shared t [.integer, .float, .boolean, .memory]
  | zero (ht : t = ['0']) : Shared t [.integer, .float, .boolean, .memory, .duration]
  | signedZero (ht : t = ['+', '0'] ∨ t = ['-', '0']) : Shared t [.integer, .float, .duration]
  | minutes (ht : Quantity.IsMinutes t) : Shared t [.memory, .duration]

theorem acceptedAs_of_mem_words : ∀ word ∈ Quantity.trueWords ++ Quantity.falseWords,
    acceptedAs word =
      if word = ['1'] then [.integer, .float, .boolean, .memory]
      else if word = ['0'] then [.integer, .float, .boolean, .memory, .duration]
      else [.boolean] := by
  decide +kernel

theorem acceptedAs_of_signedZero (ht : t = ['+', '0'] ∨ t = ['-', '0']) :
    acceptedAs t = [.integer, .float, .duration] := by
  rcases ht with rfl | rfl <;> decide +kernel

theorem eq_of_takeSign {rest : Text} (hrest : (Numeral.takeSign t).2 = rest) :
    t = rest ∨ t = '+' :: rest ∨ t = '-' :: rest := by
  unfold Numeral.takeSign at hrest
  split at hrest
  · exact Or.inr (Or.inl (congrArg _ hrest))
  · exact Or.inr (Or.inr (congrArg _ hrest))
  · exact Or.inl hrest

/-- A clock form is of no other kind. -/
theorem acceptedAs_of_clusterDuration (hcluster : accepts .clusterDuration t) :
    acceptedAs t = [.clusterDuration] := by
  have hcolon : ':' ∈ t := (colon_mem_iff_of_accepts (by decide) hcluster).mpr rfl
  have honly : ∀ kind ∈ order, accepts kind t = decide (kind = .clusterDuration) := by
    intro kind hkind
    rw [Bool.eq_iff_iff, decide_eq_true_iff]
    exact ⟨fun h => (colon_mem_iff_of_accepts hkind h).mp hcolon, fun h => h ▸ hcluster⟩
  rw [acceptedAs, List.filter_congr honly]
  decide

theorem digits_of_accepts (hinteger : accepts .integer t) :
    Text.Digits (Numeral.takeSign t).2 := by
  obtain ⟨i, hread⟩ := isSome_toOption_map_iff.mp hinteger
  exact Quantity.digits_of_readInteger hread

/-- The kinds that accept a number that is no truth value. -/
theorem shared_of_accepts_float (hfloat : accepts .float t) (hboolean : ¬ accepts .boolean t)
    (hcluster : ¬ accepts .clusterDuration t) (htwo : 2 ≤ (acceptedAs t).length) :
    Shared t (acceptedAs t) := by
  by_cases hduration : accepts .duration t
  · rcases eq_of_takeSign (takeSign_of_accepts hfloat hduration) with rfl | hsigned
    · exact absurd (by decide) hboolean
    · rw [acceptedAs_of_signedZero hsigned]
      exact .signedZero hsigned
  by_cases hinteger : accepts .integer t <;> by_cases hmemory : accepts .memory t
  · have hdigits := digits_of_accepts hinteger
    rw [Numeral.takeSign_of_isPlain (isPlain_of_accepts hfloat hmemory)] at hdigits
    have hkinds : acceptedAs t = [.integer, .float, .memory] := by
      simp [acceptedAs, order, *]
    exact hkinds ▸ .whole hdigits
  · have hkinds : acceptedAs t = [.integer, .float] := by
      simp [acceptedAs, order, *]
    exact hkinds ▸ .integer (digits_of_accepts hinteger)
  · have hkinds : acceptedAs t = [.float, .memory] := by
      simp [acceptedAs, order, *]
    exact hkinds ▸ .decimal (isPlain_of_accepts hfloat hmemory)
  · have hkinds : acceptedAs t = [.float] := by
      simp [acceptedAs, order, *]
    rw [hkinds] at htwo
    exact absurd htwo (by decide)

/-- The order matters for no other texts than the shared ones. -/
theorem shared_of_two_le (htwo : 2 ≤ (acceptedAs t).length) : Shared t (acceptedAs t) := by
  by_cases hcluster : accepts .clusterDuration t
  · rw [acceptedAs_of_clusterDuration hcluster] at htwo
    exact absurd htwo (by decide)
  by_cases hboolean : accepts .boolean t
  · rw [acceptedAs_of_mem_words t (mem_words_of_accepts hboolean)] at htwo ⊢
    split_ifs at htwo ⊢ with hone hzero
    · exact .one hone
    · exact .zero hzero
    · exact absurd htwo (by decide)
  by_cases hfloat : accepts .float t
  · exact shared_of_accepts_float hfloat hboolean hcluster htwo
  have hinteger : ¬ accepts .integer t := fun hinteger =>
    hfloat (accepts_float_of_isPlain (Numeral.isPlain_of_digits (digits_of_accepts hinteger)))
  by_cases hboth : accepts .memory t ∧ accepts .duration t
  · obtain ⟨hmemory, hduration⟩ := hboth
    obtain ⟨n, hsize⟩ := isSome_toOption_map_iff.mp hmemory
    obtain ⟨d, hcompact⟩ := isSome_toOption_map_iff.mp hduration
    rcases Quantity.isPlain_or_isMinutes hsize hcompact with hplain | hminutes
    · have hsign := Numeral.takeSign_of_isPlain hplain
      exact absurd (accepts_float_of_isPlain (by rwa [hsign])) hfloat
    · have hkinds : acceptedAs t = [.memory, .duration] := by
        simp [acceptedAs, order, *]
      exact hkinds ▸ .minutes hminutes
  · have hone : (acceptedAs t).length < 2 := by
      simp only [acceptedAs, order, List.filter_cons, List.filter_nil, hinteger, hfloat, hboolean,
        hcluster]
      grind
    omega

/-- A text in clock form is read as the duration that it is the clock form of. -/
theorem read_of_readCluster {d : Duration} (hread : Duration.readCluster t = .ok d) :
    read t = .clusterDuration d := by
  have hkind : readAs .clusterDuration t = .ok (.clusterDuration d) :=
    map_eq_ok_iff.mpr ⟨d, hread, rfl⟩
  exact read_of_acceptedAs (acceptedAs_of_clusterDuration (accepts_of_readAs hkind)) hkind

/-- A span of whole seconds in clock form is read as that span. -/
theorem read_text {d : Duration} (hd : d.Whole) : read d.text = .clusterDuration d :=
  read_of_readCluster (Duration.readCluster_text hd)

/-- A compact duration is of no other kind, or it is a number of minutes and a size, or a zero. -/
theorem acceptedAs_of_duration (hduration : accepts .duration t) :
    acceptedAs t = [.duration] ∨
      Quantity.IsMinutes t ∧ acceptedAs t = [.memory, .duration] ∨ t ∈ Numeral.zeros := by
  have hmem : .duration ∈ acceptedAs t := List.mem_filter.mpr ⟨by decide, hduration⟩
  rcases Nat.lt_or_ge (acceptedAs t).length 2 with hone | htwo
  · obtain ⟨kind, hkind⟩ := List.length_eq_one_iff.mp
      (Nat.le_antisymm (Nat.le_of_lt_succ hone) (List.length_pos_of_mem hmem))
    rw [hkind, List.mem_singleton] at hmem
    exact Or.inl (hmem ▸ hkind)
  · have hshared := shared_of_two_le htwo
    generalize acceptedAs t = kinds at hshared hmem
    cases hshared with
    | integer => exact absurd hmem (by decide)
    | whole => exact absurd hmem (by decide)
    | decimal => exact absurd hmem (by decide)
    | one => exact absurd hmem (by decide)
    | zero ht => exact Or.inr (Or.inr (ht ▸ by decide))
    | signedZero ht => exact Or.inr (Or.inr (by rcases ht with rfl | rfl <;> decide))
    | minutes ht => exact Or.inr (Or.inl ⟨ht, rfl⟩)

/-- A compact duration is read as one if it is neither a zero nor a number of minutes. -/
theorem read_of_readCompact {d : Duration} (hread : Duration.readCompact t = .ok d)
    (hzero : t ∉ Numeral.zeros) (hminutes : ¬ Quantity.IsMinutes t) : read t = .duration d := by
  have hkind : readAs .duration t = .ok (.duration d) := map_eq_ok_iff.mpr ⟨d, hread, rfl⟩
  rcases acceptedAs_of_duration (accepts_of_readAs hkind) with hkinds | ⟨ht, -⟩ | ht
  · exact read_of_acceptedAs hkinds hkind
  · exact absurd ht hminutes
  · exact absurd ht hzero

/-- A compact duration that is a number of minutes is read as a size. -/
theorem read_of_isMinutes {d : Duration} (hread : Duration.readCompact t = .ok d)
    (hminutes : Quantity.IsMinutes t) :
    ∃ bytes, Quantity.readSize t = .ok bytes ∧ read t = .memory bytes := by
  obtain ⟨bytes, hsize⟩ := Quantity.exists_readSize_of_isMinutes hminutes hread
  have hkind : readAs .memory t = .ok (.memory bytes) := map_eq_ok_iff.mpr ⟨bytes, hsize, rfl⟩
  have hduration : accepts .duration t := isSome_toOption_map_iff.mpr ⟨d, hread⟩
  refine ⟨bytes, hsize, ?_⟩
  rcases acceptedAs_of_duration hduration with hkinds | ⟨-, hkinds⟩ | hzero
  · have hmem : .memory ∈ acceptedAs t :=
      List.mem_filter.mpr ⟨by decide, accepts_of_readAs hkind⟩
    rw [hkinds] at hmem
    exact absurd hmem (by decide)
  · exact read_of_acceptedAs hkinds hkind
  · have hletters : ∀ zero ∈ Numeral.zeros, 'm' ∉ zero := by decide
    obtain ⟨number, -, rfl⟩ := hminutes
    exact absurd (List.mem_append_right _ List.mem_cons_self) (hletters _ hzero)

theorem read_of_mem_zeros : ∀ zero ∈ Numeral.zeros, read zero = .integer 0 := by
  decide +kernel

/-- Two kinds accept no other texts than the shared ones. So what is in clock form is read as its
    duration, and a compact duration too, but for a zero, which is an integer, and a number of
    minutes, which is a size. -/
theorem shared_acceptedAs_and_read_durations (t : Text) :
    (2 ≤ (acceptedAs t).length → Shared t (acceptedAs t)) ∧
      (∀ d, Duration.readCluster t = .ok d → read t = .clusterDuration d) ∧
      ∀ d, Duration.readCompact t = .ok d →
        (t ∈ Numeral.zeros → read t = .integer 0) ∧
        (Quantity.IsMinutes t →
          ∃ bytes, Quantity.readSize t = .ok bytes ∧ read t = .memory bytes) ∧
        (t ∉ Numeral.zeros → ¬ Quantity.IsMinutes t → read t = .duration d) :=
  ⟨shared_of_two_le, fun _ => read_of_readCluster, fun _ hread =>
    ⟨read_of_mem_zeros t, read_of_isMinutes hread, read_of_readCompact hread⟩⟩

/-- Thirty minutes are a size too, and are read as one. A day is read in clock form. -/
theorem shared_and_read_of_day_and_minutes :
    Shared "30m".toList (acceptedAs "30m".toList) ∧
      read "1-00:00:00".toList = .clusterDuration ⟨86400000000, by decide⟩ ∧
      read "-0".toList = .integer 0 ∧
      (∃ bytes, Quantity.readSize "30m".toList = .ok bytes ∧ read "30m".toList = .memory bytes) ∧
      read "1h30m".toList = .duration ⟨5400000000, by decide⟩ := by
  have hminutes : Duration.readCompact "30m".toList = .ok ⟨1800000000, by decide⟩ :=
    toOption_eq_some_iff.mp (by decide +kernel)
  have hnumber : Quantity.IsMinutes "30m".toList := ⟨"30".toList, by decide, rfl⟩
  have hmixed : ¬ Quantity.IsMinutes "1h30m".toList := fun h =>
    absurd (h.isMinuteChar 'h' (by decide)) (by unfold Quantity.IsMinuteChar; decide)
  exact ⟨(shared_acceptedAs_and_read_durations _).1 (by decide +kernel),
    (shared_acceptedAs_and_read_durations _).2.1 _ (toOption_eq_some_iff.mp (by decide +kernel)),
    ((shared_acceptedAs_and_read_durations _).2.2 Duration.zero
      (toOption_eq_some_iff.mp (by decide +kernel))).1 (by decide),
    ((shared_acceptedAs_and_read_durations _).2.2 _ hminutes).2.1 hnumber,
    ((shared_acceptedAs_and_read_durations _).2.2 _
      (toOption_eq_some_iff.mp (by decide +kernel))).2.2 (by decide) hmixed⟩

end Scalar

end RecordFilter
