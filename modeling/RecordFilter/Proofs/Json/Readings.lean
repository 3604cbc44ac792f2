import Mathlib.Data.List.TakeWhile
import RecordFilter.Proofs.Json.Tokens
import RecordFilter.Proofs.Text.Pieces

/-!
What is read of a text in JSON, step by step.

A reading is derived from the readings of its parts (`Reads`), without fuel. The readers find just
the readings that are derived so, and twice as much fuel as there are characters in a reading is
enough for it.
-/

namespace RecordFilter.Json

/-- What is read at once. -/
inductive Reading
  | value (value : Value)
  /-- The values of an array, up to its closing bracket. -/
  | items (items : List Value)
  /-- The members of an object, up to its closing brace. -/
  | members (pairs : List (Text × Value))

/-- Whether a text is that of a word or a number, if it is that of a value. -/
def BeginsPlain (t : Text) : Prop :=
  ∀ c, t.head? = some c → c ≠ '"' ∧ c ≠ '[' ∧ c ≠ '\x7b'

/-- A reading of the beginning of a text, in which arrays and objects are nested no deeper than
    there is room, and the rest of the text. -/
inductive Reads : Nat → Text → Reading → Text → Prop
  | plain {room : Nat} {t rest : Text} {v : Value} (hbegins : BeginsPlain t)
      (hplain : readPlain t = .ok (v, rest)) : Reads room t (.value v) rest
  | text {room : Nat} {t rest s : Text} (htext : readString t = .ok (s, rest)) :
      Reads room ('"' :: t) (.value (.text s)) rest
  | emptyList {room : Nat} {t rest : Text} (hgap : skipGaps t = ']' :: rest) :
      Reads (room + 1) ('[' :: t) (.value (.list [])) rest
  | list {room : Nat} {t rest : Text} {items : List Value}
      (hitems : Reads room (skipGaps t) (.items items) rest) :
      Reads (room + 1) ('[' :: t) (.value (.list items)) rest
  | emptyDict {room : Nat} {t rest : Text} (hgap : skipGaps t = '\x7d' :: rest) :
      Reads (room + 1) ('\x7b' :: t) (.value (.dict [])) rest
  | dict {room : Nat} {t rest : Text} {pairs : List (Text × Value)}
      (hpairs : Reads room (skipGaps t) (.members pairs) rest) :
      Reads (room + 1) ('\x7b' :: t) (.value (.dict (membersOf pairs))) rest
  | lastItem {room : Nat} {t middle rest : Text} {v : Value}
      (hitem : Reads room t (.value v) middle) (hgap : skipGaps middle = ']' :: rest) :
      Reads room t (.items [v]) rest
  | item {room : Nat} {t middle after rest : Text} {v : Value} {items : List Value}
      (hitem : Reads room t (.value v) middle) (hgap : skipGaps middle = ',' :: after)
      (hitems : Reads room (skipGaps after) (.items items) rest) :
      Reads room t (.items (v :: items)) rest
  | lastMember {room : Nat} {t named after middle rest name : Text} {v : Value}
      (hname : readString t = .ok (name, named)) (hcolon : skipGaps named = ':' :: after)
      (hvalue : Reads room (skipGaps after) (.value v) middle)
      (hgap : skipGaps middle = '\x7d' :: rest) : Reads room ('"' :: t) (.members [(name, v)]) rest
  | member {room : Nat} {t named after middle next rest name : Text} {v : Value}
      {pairs : List (Text × Value)} (hname : readString t = .ok (name, named))
      (hcolon : skipGaps named = ':' :: after)
      (hvalue : Reads room (skipGaps after) (.value v) middle)
      (hgap : skipGaps middle = ',' :: next)
      (hpairs : Reads room (skipGaps next) (.members pairs) rest) :
      Reads room ('"' :: t) (.members ((name, v) :: pairs)) rest

theorem reads_of_readItems {room fuel : Nat} {t rest : Text} {items : List Value}
    (hvalue : ∀ {t v rest}, readValue room fuel t = .ok (v, rest) → Reads room t (.value v) rest)
    (hitems : ∀ {t items rest}, readItems room fuel t = .ok (items, rest) →
      Reads room t (.items items) rest)
    (hread : readItems room (fuel + 1) t = .ok (items, rest)) :
    Reads room t (.items items) rest := by
  rw [readItems, bind_eq_ok_iff] at hread
  obtain ⟨⟨v, middle⟩, hv, hread⟩ := hread
  dsimp only at hread
  split at hread
  · rename_i after hgap
    rw [bind_eq_ok_iff] at hread
    obtain ⟨⟨others, last⟩, hothers, hread⟩ := hread
    cases hread
    exact .item (hvalue hv) hgap (hitems hothers)
  · rename_i after hgap
    cases hread
    exact .lastItem (hvalue hv) hgap
  · cases hread

theorem reads_of_readMembers {room fuel : Nat} {t rest : Text} {pairs : List (Text × Value)}
    (hvalue : ∀ {t v rest}, readValue room fuel t = .ok (v, rest) → Reads room t (.value v) rest)
    (hpairs : ∀ {t pairs rest}, readMembers room fuel t = .ok (pairs, rest) →
      Reads room t (.members pairs) rest)
    (hread : readMembers room (fuel + 1) t = .ok (pairs, rest)) :
    Reads room t (.members pairs) rest := by
  unfold readMembers at hread
  split at hread
  · rename_i t
    rw [bind_eq_ok_iff] at hread
    obtain ⟨⟨name, named⟩, hname, hread⟩ := hread
    dsimp only at hread
    split at hread
    · rename_i after hcolon
      rw [bind_eq_ok_iff] at hread
      obtain ⟨⟨v, middle⟩, hv, hread⟩ := hread
      dsimp only at hread
      split at hread
      · rename_i next hgap
        rw [bind_eq_ok_iff] at hread
        obtain ⟨⟨others, last⟩, hothers, hread⟩ := hread
        cases hread
        exact .member hname hcolon (hvalue hv) hgap (hpairs hothers)
      · rename_i last hgap
        cases hread
        exact .lastMember hname hcolon (hvalue hv) hgap
      · cases hread
    · cases hread
  · cases hread

theorem reads_of_readValue {room fuel : Nat} {t rest : Text} {v : Value}
    (hitems : ∀ {room t items rest}, readItems room fuel t = .ok (items, rest) →
      Reads room t (.items items) rest)
    (hpairs : ∀ {room t pairs rest}, readMembers room fuel t = .ok (pairs, rest) →
      Reads room t (.members pairs) rest)
    (hread : readValue room (fuel + 1) t = .ok (v, rest)) : Reads room t (.value v) rest := by
  unfold readValue at hread
  split at hread
  · rw [bind_eq_ok_iff] at hread
    obtain ⟨⟨s, last⟩, hs, hread⟩ := hread
    cases hread
    exact .text hs
  · split at hread
    · cases hread
    · rename_i t hroom
      obtain ⟨room, rfl⟩ := Nat.exists_eq_succ_of_ne_zero hroom
      split at hread
      · rename_i last hgap
        cases hread
        exact .emptyList hgap
      · rw [bind_eq_ok_iff] at hread
        obtain ⟨⟨items, last⟩, hread, hv⟩ := hread
        cases hv
        exact .list (hitems hread)
  · split at hread
    · cases hread
    · rename_i t hroom
      obtain ⟨room, rfl⟩ := Nat.exists_eq_succ_of_ne_zero hroom
      split at hread
      · rename_i last hgap
        cases hread
        exact .emptyDict hgap
      · rw [bind_eq_ok_iff] at hread
        obtain ⟨⟨pairs, last⟩, hread, hv⟩ := hread
        cases hv
        exact .dict (hpairs hread)
  · rename_i hquote hbracket hbrace
    refine .plain ?_ hread
    intro c hc
    cases t with
    | nil => cases hc
    | cons d t =>
      cases hc
      refine ⟨?_, ?_, ?_⟩ <;> rintro rfl
      · exact hquote t rfl
      · exact hbracket t rfl
      · exact hbrace t rfl

/-- What a reader finds is derived. The induction is on the fuel, for the three readers at once. -/
theorem reads_of_eq_ok (fuel : Nat) :
    (∀ {room t v rest}, readValue room fuel t = .ok (v, rest) → Reads room t (.value v) rest) ∧
    (∀ {room t items rest}, readItems room fuel t = .ok (items, rest) →
      Reads room t (.items items) rest) ∧
    ∀ {room t pairs rest}, readMembers room fuel t = .ok (pairs, rest) →
      Reads room t (.members pairs) rest := by
  induction fuel with
  | zero =>
    refine ⟨?_, ?_, ?_⟩ <;> intro room t result rest hread
    · rw [readValue] at hread
      cases hread
    · rw [readItems] at hread
      cases hread
    · rw [readMembers] at hread
      cases hread
  | succ fuel ih =>
    obtain ⟨hvalue, hitems, hpairs⟩ := ih
    exact ⟨reads_of_readValue hitems hpairs, reads_of_readItems hvalue hitems,
      reads_of_readMembers hvalue hpairs⟩

theorem isSuffix_skipGaps (t : Text) : skipGaps t <:+ t :=
  List.dropWhile_suffix _

theorem isSuffix_of_skipGaps_eq {t rest : Text} {c : Char} (ht : skipGaps t = c :: rest) :
    rest <:+ t :=
  (List.suffix_cons c rest).trans (ht ▸ isSuffix_skipGaps t)

theorem shortens_of_skipGaps_eq {t rest : Text} {c : Char} (ht : skipGaps t = c :: rest) :
    Shortens t rest :=
  shortens_of_isSuffix (isSuffix_skipGaps t) (ht ▸ shortens_cons c rest)

variable {room : Nat} {t rest : Text} {r : Reading}

theorem Reads.shortens (hread : Reads room t r rest) : Shortens t rest := by
  induction hread with
  | plain _ hplain => exact shortens_readPlain hplain
  | text htext => exact (shortens_cons _ _).trans_isSuffix (shortens_readText htext).isSuffix
  | emptyList hgap => exact (shortens_cons _ _).trans_isSuffix (isSuffix_of_skipGaps_eq hgap)
  | list _ ih =>
    exact (shortens_cons _ _).trans_isSuffix (ih.isSuffix.trans (isSuffix_skipGaps _))
  | emptyDict hgap => exact (shortens_cons _ _).trans_isSuffix (isSuffix_of_skipGaps_eq hgap)
  | dict _ ih =>
    exact (shortens_cons _ _).trans_isSuffix (ih.isSuffix.trans (isSuffix_skipGaps _))
  | lastItem _ hgap ih => exact ih.trans_isSuffix (isSuffix_of_skipGaps_eq hgap)
  | item _ hgap _ ihitem ihitems =>
    exact ihitem.trans_isSuffix
      ((ihitems.isSuffix.trans (isSuffix_skipGaps _)).trans (isSuffix_of_skipGaps_eq hgap))
  | lastMember hname hcolon _ hgap ih =>
    have hvalue := (ih.isSuffix.trans (isSuffix_skipGaps _)).trans (isSuffix_of_skipGaps_eq hcolon)
    exact (shortens_cons _ _).trans_isSuffix
      (((isSuffix_of_skipGaps_eq hgap).trans hvalue).trans (shortens_readText hname).isSuffix)
  | member hname hcolon _ hgap _ ihvalue ihpairs =>
    have hvalue := (ihvalue.isSuffix.trans (isSuffix_skipGaps _)).trans
      (isSuffix_of_skipGaps_eq hcolon)
    have hpairs := (ihpairs.isSuffix.trans (isSuffix_skipGaps _)).trans
      (isSuffix_of_skipGaps_eq hgap)
    exact (shortens_cons _ _).trans_isSuffix
      ((hpairs.trans hvalue).trans (shortens_readText hname).isSuffix)

/-- Neither a value nor the members of an object begin with a closing bracket. -/
theorem Reads.head?_ne (hread : Reads room t r rest) : t.head? ≠ some ']' := by
  induction hread with
  | plain _ hplain => exact head?_ne_of_readPlain hplain (by decide) (by decide) (by decide)
  | lastItem _ _ ih => exact ih
  | item _ _ _ ih => exact ih
  | _ => exact nofun

section

variable {room fuel : Nat} {t : Text}

/-- What is no word and no number begins with one of three marks. -/
theorem exists_of_not_beginsPlain (ht : ¬ BeginsPlain t) :
    ∃ d u, t = d :: u ∧ (d = '"' ∨ d = '[' ∨ d = '\x7b') := by
  cases t with
  | nil => exact absurd nofun ht
  | cons d u =>
    refine ⟨d, u, rfl, ?_⟩
    by_contra hd
    simp only [not_or] at hd
    exact ht fun e he => Option.some.inj he ▸ hd

theorem readValue_of_beginsPlain (ht : BeginsPlain t) :
    readValue room (fuel + 1) t = readPlain t := by
  unfold readValue
  split
  · exact absurd rfl (ht _ rfl).1
  · exact absurd rfl (ht _ rfl).2.1
  · exact absurd rfl (ht _ rfl).2.2
  · rfl

theorem readValue_quote :
    readValue room (fuel + 1) ('"' :: t) =
      readString t >>= fun (s, rest) => .ok (.text s, rest) := by
  unfold readValue
  rfl

theorem readValue_bracket :
    readValue (room + 1) (fuel + 1) ('[' :: t) =
      if (skipGaps t).head? = some ']' then .ok (.list [], (skipGaps t).tail)
      else readItems room fuel (skipGaps t) >>= fun (items, rest) => .ok (.list items, rest) := by
  unfold readValue
  simp only [Nat.succ_ne_zero, if_false, Nat.add_sub_cancel]
  split
  · rename_i hgap
    rw [hgap]
    rfl
  · rename_i hgap
    rw [if_neg]
    · rfl
    · intro hhead
      obtain ⟨rest, hrest⟩ := List.head?_eq_some_iff.mp hhead
      exact hgap rest hrest

theorem readValue_brace :
    readValue (room + 1) (fuel + 1) ('\x7b' :: t) =
      if (skipGaps t).head? = some '\x7d' then .ok (.dict [], (skipGaps t).tail)
      else readMembers room fuel (skipGaps t) >>=
        fun (pairs, rest) => .ok (.dict (membersOf pairs), rest) := by
  unfold readValue
  simp only [Nat.succ_ne_zero, if_false, Nat.add_sub_cancel]
  split
  · rename_i hgap
    rw [hgap]
    rfl
  · rename_i hgap
    rw [if_neg]
    · rfl
    · intro hhead
      obtain ⟨rest, hrest⟩ := List.head?_eq_some_iff.mp hhead
      exact hgap rest hrest

theorem readValue_text {s rest : Text} (htext : readString t = .ok (s, rest)) :
    readValue room (fuel + 1) ('"' :: t) = .ok (.text s, rest) := by
  rw [readValue_quote, htext]
  rfl

theorem readValue_emptyList {rest : Text} (ht : skipGaps t = ']' :: rest) :
    readValue (room + 1) (fuel + 1) ('[' :: t) = .ok (.list [], rest) := by
  rw [readValue_bracket, ht]
  rfl

theorem readValue_list {items : List Value} {rest : Text} (ht : (skipGaps t).head? ≠ some ']')
    (hitems : readItems room fuel (skipGaps t) = .ok (items, rest)) :
    readValue (room + 1) (fuel + 1) ('[' :: t) = .ok (.list items, rest) := by
  rw [readValue_bracket, if_neg ht, hitems]
  rfl

theorem readValue_emptyDict {rest : Text} (ht : skipGaps t = '\x7d' :: rest) :
    readValue (room + 1) (fuel + 1) ('\x7b' :: t) = .ok (.dict [], rest) := by
  rw [readValue_brace, ht]
  rfl

theorem readValue_dict {pairs : List (Text × Value)} {rest : Text}
    (ht : (skipGaps t).head? ≠ some '\x7d')
    (hpairs : readMembers room fuel (skipGaps t) = .ok (pairs, rest)) :
    readValue (room + 1) (fuel + 1) ('\x7b' :: t) = .ok (.dict (membersOf pairs), rest) := by
  rw [readValue_brace, if_neg ht, hpairs]
  rfl

theorem readMembers_of_ne {d : Char} (hd : d ≠ '"') :
    readMembers room (fuel + 1) (d :: t) = .error .malformed := by
  unfold readMembers
  split
  · rename_i heq
    exact absurd (List.cons.inj heq).1 hd
  · rfl

theorem readItems_last {v : Value} {middle rest : Text}
    (hitem : readValue room fuel t = .ok (v, middle)) (hgap : skipGaps middle = ']' :: rest) :
    readItems room (fuel + 1) t = .ok ([v], rest) := by
  rw [readItems, hitem]
  simp only [bind, Except.bind, hgap]
  rfl

theorem readItems_next {v : Value} {items : List Value} {middle after rest : Text}
    (hitem : readValue room fuel t = .ok (v, middle)) (hgap : skipGaps middle = ',' :: after)
    (hitems : readItems room fuel (skipGaps after) = .ok (items, rest)) :
    readItems room (fuel + 1) t = .ok (v :: items, rest) := by
  rw [readItems, hitem]
  simp only [bind, Except.bind, hgap, hitems]
  rfl

theorem readMembers_last {v : Value} {name named after middle rest : Text}
    (hname : readString t = .ok (name, named)) (hcolon : skipGaps named = ':' :: after)
    (hvalue : readValue room fuel (skipGaps after) = .ok (v, middle))
    (hgap : skipGaps middle = '\x7d' :: rest) :
    readMembers room (fuel + 1) ('"' :: t) = .ok ([(name, v)], rest) := by
  unfold readMembers
  simp only [bind, Except.bind, hname, hcolon, hvalue, hgap]
  rfl

theorem readMembers_next {v : Value} {pairs : List (Text × Value)}
    {name named after middle next rest : Text} (hname : readString t = .ok (name, named))
    (hcolon : skipGaps named = ':' :: after)
    (hvalue : readValue room fuel (skipGaps after) = .ok (v, middle))
    (hgap : skipGaps middle = ',' :: next)
    (hpairs : readMembers room fuel (skipGaps next) = .ok (pairs, rest)) :
    readMembers room (fuel + 1) ('"' :: t) = .ok ((name, v) :: pairs, rest) := by
  unfold readMembers
  simp only [bind, Except.bind, hname, hcolon, hvalue, hgap, hpairs]
  rfl

end

/-- The reader for this kind of reading finds it. -/
def Reading.IsFound (room fuel : Nat) (t rest : Text) : Reading → Prop
  | .value v => readValue room fuel t = .ok (v, rest)
  | .items found => readItems room fuel t = .ok (found, rest)
  | .members pairs => readMembers room fuel t = .ok (pairs, rest)

theorem exists_eq_succ_of_shortens {t rest : Text} {fuel : Nat} (hshort : Shortens t rest)
    (hfuel : 2 * t.length ≤ fuel + 2 * rest.length) : ∃ n, fuel = n + 1 := by
  have hlt := hshort.length_lt
  exact Nat.exists_eq_succ_of_ne_zero (by omega)

/-- Twice as much fuel as the reading has characters is enough to find it. -/
theorem Reads.isFound (hread : Reads room t r rest) {fuel : Nat}
    (hfuel : 2 * t.length ≤ fuel + 2 * rest.length) : r.IsFound room fuel t rest := by
  induction hread generalizing fuel with
  | plain hbegins hplain =>
    obtain ⟨fuel, rfl⟩ := exists_eq_succ_of_shortens (shortens_readPlain hplain) hfuel
    exact (readValue_of_beginsPlain hbegins).trans hplain
  | text htext =>
    have hshort := (shortens_cons '"' _).trans_isSuffix (shortens_readText htext).isSuffix
    obtain ⟨fuel, rfl⟩ := exists_eq_succ_of_shortens hshort hfuel
    exact readValue_text htext
  | emptyList hgap =>
    have hshort := (shortens_cons '[' _).trans_isSuffix (isSuffix_of_skipGaps_eq hgap)
    obtain ⟨fuel, rfl⟩ := exists_eq_succ_of_shortens hshort hfuel
    exact readValue_emptyList hgap
  | @list room t rest items hitems ih =>
    obtain ⟨fuel, rfl⟩ := exists_eq_succ_of_shortens (Reads.list hitems).shortens hfuel
    have hgaps := (isSuffix_skipGaps t).length_le
    rw [List.length_cons] at hfuel
    have hfound : readItems room fuel (skipGaps t) = .ok (items, rest) := ih (by omega)
    exact readValue_list hitems.head?_ne hfound
  | emptyDict hgap =>
    have hshort := (shortens_cons '\x7b' _).trans_isSuffix (isSuffix_of_skipGaps_eq hgap)
    obtain ⟨fuel, rfl⟩ := exists_eq_succ_of_shortens hshort hfuel
    exact readValue_emptyDict hgap
  | @dict room t rest pairs hpairs ih =>
    obtain ⟨fuel, rfl⟩ := exists_eq_succ_of_shortens (Reads.dict hpairs).shortens hfuel
    have hgaps := (isSuffix_skipGaps t).length_le
    rw [List.length_cons] at hfuel
    have hfound : readMembers room fuel (skipGaps t) = .ok (pairs, rest) := ih (by omega)
    have hbrace : (skipGaps t).head? ≠ some '\x7d' := by
      generalize skipGaps t = text at hpairs
      cases hpairs <;> exact nofun
    exact readValue_dict hbrace hfound
  | @lastItem room t middle rest v hitem hgap ih =>
    obtain ⟨fuel, rfl⟩ := exists_eq_succ_of_shortens (Reads.lastItem hitem hgap).shortens hfuel
    have hafter := (shortens_of_skipGaps_eq hgap).length_lt
    have hfound : readValue room fuel t = .ok (v, middle) := ih (by omega)
    exact readItems_last hfound hgap
  | @item room t middle after rest v items hitem hgap hitems ihitem ihitems =>
    obtain ⟨fuel, rfl⟩ := exists_eq_succ_of_shortens (Reads.item hitem hgap hitems).shortens hfuel
    have hafter := (shortens_of_skipGaps_eq hgap).length_lt
    have hgaps := (isSuffix_skipGaps after).length_le
    have hfirst := hitem.shortens.length_lt
    have hlast := hitems.shortens.length_lt
    have hfound : readValue room fuel t = .ok (v, middle) := ihitem (by omega)
    have hothers : readItems room fuel (skipGaps after) = .ok (items, rest) := ihitems (by omega)
    exact readItems_next hfound hgap hothers
  | @lastMember room t named after middle rest name v hname hcolon hvalue hgap ih =>
    obtain ⟨fuel, rfl⟩ :=
      exists_eq_succ_of_shortens (Reads.lastMember hname hcolon hvalue hgap).shortens hfuel
    have hnamed := (shortens_readText hname).length_lt
    have hafter := (shortens_of_skipGaps_eq hcolon).length_lt
    have hgaps := (isSuffix_skipGaps after).length_le
    have hrest := (shortens_of_skipGaps_eq hgap).length_lt
    rw [List.length_cons] at hfuel
    have hfound : readValue room fuel (skipGaps after) = .ok (v, middle) := ih (by omega)
    exact readMembers_last hname hcolon hfound hgap
  | @member room t named after middle next rest name v pairs hname hcolon hvalue hgap hpairs
      ihvalue ihpairs =>
    obtain ⟨fuel, rfl⟩ :=
      exists_eq_succ_of_shortens (Reads.member hname hcolon hvalue hgap hpairs).shortens hfuel
    have hnamed := (shortens_readText hname).length_lt
    have hafter := (shortens_of_skipGaps_eq hcolon).length_lt
    have hgaps := (isSuffix_skipGaps after).length_le
    have hfirst := hvalue.shortens.length_lt
    have hnext := (shortens_of_skipGaps_eq hgap).length_lt
    have hgaps' := (isSuffix_skipGaps next).length_le
    have hlast := hpairs.shortens.length_lt
    rw [List.length_cons] at hfuel
    have hfound : readValue room fuel (skipGaps after) = .ok (v, middle) := ihvalue (by omega)
    have hothers : readMembers room fuel (skipGaps next) = .ok (pairs, rest) := ihpairs (by omega)
    exact readMembers_next hname hcolon hfound hgap hothers

/-- A text is read as a value if it is derived as one between white space. -/
theorem read_eq_ok_iff {t : Text} {v : Value} :
    read t = .ok v ↔
      ∃ rest, Reads depthLimit (skipGaps t) (.value v) rest ∧ skipGaps rest = [] := by
  rw [read, bind_eq_ok_iff]
  constructor
  · rintro ⟨⟨found, rest⟩, hfound, hread⟩
    dsimp only at hread
    split at hread
    · rename_i hend
      cases hread
      exact ⟨rest, (reads_of_eq_ok _).1 hfound, List.isEmpty_iff.mp hend⟩
    · cases hread
  · rintro ⟨rest, hread, hend⟩
    have hgaps := (isSuffix_skipGaps t).length_le
    have hfound : readValue depthLimit (2 * t.length + 2) (skipGaps t) = .ok (v, rest) :=
      hread.isFound (by omega)
    exact ⟨(v, rest), hfound, by simp only [hend]; rfl⟩

end RecordFilter.Json
