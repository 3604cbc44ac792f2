import Mathlib.Data.List.Count
import RecordFilter.Proofs.Json.Readings

/-!
Faults of a text in JSON: what each of them tells of the text.

An array or an object that is nested too deeply has used up the room of all those around it, so the
text has more brackets and braces than there was room for. An integer with too many digits stands
in the text as it is.
-/

namespace RecordFilter.Json

/-- The text has a row of digits with more of them than are converted. -/
def HasLongNumber (text : Text) : Prop :=
  ∃ row, row <:+: text ∧ (∀ c ∈ row, Text.isPlainDigit c) ∧ digitLimit < row.length

/-- How deeply arrays and objects can be nested with the brackets and braces of a text. -/
def nestCost (text : Text) : Nat :=
  text.count '[' + text.count '\x7b'

/-- What a fault tells of a text that is read with some room for arrays and objects. -/
def Tells (room : Nat) (text : Text) : JsonError → Prop
  | .malformed => True
  | .tooManyDigits => HasLongNumber text
  | .nestedTooDeeply => room < nestCost text

section

variable {room fuel : Nat} {t rest : Text} {e : JsonError}

theorem HasLongNumber.of_isInfix (hlong : HasLongNumber rest) (hrest : rest <:+: t) :
    HasLongNumber t := by
  obtain ⟨row, hrow, hdigits, hlength⟩ := hlong
  exact ⟨row, hrow.trans hrest, hdigits, hlength⟩

theorem nestCost_le_of_sublist (hrest : rest.Sublist t) : nestCost rest ≤ nestCost t :=
  Nat.add_le_add (hrest.count_le '[') (hrest.count_le '\x7b')

theorem Tells.of_isInfix (htells : Tells room rest e) (hrest : rest <:+: t) : Tells room t e := by
  cases e with
  | malformed => trivial
  | tooManyDigits => exact HasLongNumber.of_isInfix htells hrest
  | nestedTooDeeply => exact Nat.lt_of_lt_of_le htells (nestCost_le_of_sublist hrest.sublist)

theorem Tells.of_isSuffix (htells : Tells room rest e) (hrest : rest <:+ t) : Tells room t e :=
  htells.of_isInfix hrest.isInfix

theorem Tells.long_or_deep (htells : Tells room t e) (he : e ≠ .malformed) :
    HasLongNumber t ∨ room < nestCost t := by
  cases e with
  | malformed => contradiction
  | tooManyDigits => exact Or.inl htells
  | nestedTooDeeply => exact Or.inr htells

/-- What is read behind an opening bracket or brace has less room by one. -/
theorem Tells.of_opened (htells : Tells (room - 1) rest e) (hrest : rest <:+ t)
    (hcost : nestCost t = nestCost rest + 1) : Tells room t e := by
  cases e with
  | malformed => trivial
  | tooManyDigits => exact HasLongNumber.of_isInfix htells hrest.isInfix
  | nestedTooDeeply =>
    change room - 1 < nestCost rest at htells
    change room < nestCost t
    omega

/-- A bracket or brace that there is no room for. -/
theorem tells_nestedTooDeeply (hroom : room = 0) (hcost : nestCost t = nestCost rest + 1) :
    Tells room t .nestedTooDeeply := by
  change room < nestCost t
  omega

theorem nestCost_bracket (t : Text) : nestCost ('[' :: t) = nestCost t + 1 := by
  simp only [nestCost, List.count_cons_self, List.count_cons_of_ne (by decide : '[' ≠ '\x7b')]
  omega

theorem nestCost_brace (t : Text) : nestCost ('\x7b' :: t) = nestCost t + 1 := by
  simp only [nestCost, List.count_cons_self, List.count_cons_of_ne (by decide : '\x7b' ≠ '[')]
  omega

theorem ends_readCode (t : Text) : Ends (fun _ => True) (· = .malformed) (readCode t) := by
  unfold readCode
  split
  · split
    · exact .ok trivial
    · exact .error rfl
  · exact .error rfl

theorem ends_charAt (high : Nat) (t : Text) :
    Ends (fun _ => True) (· = .malformed) (charAt high t) := by
  unfold charAt
  split
  · split
    · refine (ends_readCode _).bind fun _ _ => ?_
      dsimp only
      split <;> exact .ok trivial
    · exact .ok trivial
  · exact .ok trivial

theorem ends_readUnicode (t : Text) : Ends (fun _ => True) (· = .malformed) (readUnicode t) := by
  rw [readUnicode_eq]
  exact (ends_readCode t).bind fun _ _ => ends_charAt _ _

theorem ends_readText (fuel : Nat) (read t : Text) :
    Ends (fun _ => True) (· = .malformed) (readText fuel read t) := by
  induction fuel generalizing read t with
  | zero => exact .error rfl
  | succ fuel ih =>
    cases t with
    | nil => exact .error rfl
    | cons c t =>
      rw [readText_succ_cons]
      split
      · exact .ok trivial
      · split
        · exact .error rfl
        · split
          · unfold readEscape
            split
            · exact (ends_readUnicode _).bind fun _ _ => ih _ _
            · split
              · exact ih _ _
              · exact .error rfl
            · exact .error rfl
          · exact ih _ _

theorem tells_of_readString (hread : readString t = .error e) : Tells room rest e := by
  rw [(ends_readText _ [] t).of_eq_error hread]
  trivial

theorem isPrefix_of_readWhole? {whole : Text} (hread : readWhole? t = some (whole, rest)) :
    whole <+: t := by
  unfold readWhole? at hread
  split at hread
  · cases hread
    exact List.prefix_append ['0'] rest
  · dsimp only at hread
    split at hread
    · cases hread
    · cases hread
      exact ⟨_, (Numeral.eq_append_takeDigits t).symm⟩

theorem tells_of_readUnsigned {negative : Bool} (hread : readUnsigned negative t = .error e) :
    Tells room t e := by
  unfold readUnsigned at hread
  split at hread
  · cases hread
    trivial
  · rename_i whole after hwhole
    dsimp only at hread
    split at hread
    · split at hread
      · rename_i hlong
        cases hread
        exact ⟨whole, (isPrefix_of_readWhole? hwhole).isInfix, isPlainDigit_of_readWhole? hwhole,
          hlong⟩
      · cases hread
    · cases hread

theorem tells_of_readPlain (hread : readPlain t = .error e) : Tells room t e := by
  rw [readPlain_eq] at hread
  split at hread
  · cases hread
  · unfold readNumber at hread
    split at hread
    · exact (tells_of_readUnsigned hread).of_isSuffix (List.suffix_cons _ _)
    · exact tells_of_readUnsigned hread

section

variable (hvalue : ∀ {room t e}, readValue room fuel t = .error e → Tells room t e)
  (hitems : ∀ {room t e}, readItems room fuel t = .error e → Tells room t e)
  (hmembers : ∀ {room t e}, readMembers room fuel t = .error e → Tells room t e)

include hitems hmembers in
theorem tells_of_readValue_succ (hread : readValue room (fuel + 1) t = .error e) :
    Tells room t e := by
  unfold readValue at hread
  split at hread
  · rcases bind_eq_error_iff.mp hread with hstring | ⟨_, -, hdone⟩
    · exact tells_of_readString hstring
    · cases hdone
  · rename_i rest
    split at hread
    · rename_i hroom
      cases hread
      exact tells_nestedTooDeeply hroom (nestCost_bracket rest)
    · split at hread
      · cases hread
      · rcases bind_eq_error_iff.mp hread with hinside | ⟨_, -, hdone⟩
        · have htells := (hitems hinside).of_isSuffix (isSuffix_skipGaps rest)
          exact htells.of_opened (List.suffix_cons '[' rest) (nestCost_bracket rest)
        · cases hdone
  · rename_i rest
    split at hread
    · rename_i hroom
      cases hread
      exact tells_nestedTooDeeply hroom (nestCost_brace rest)
    · split at hread
      · cases hread
      · rcases bind_eq_error_iff.mp hread with hinside | ⟨_, -, hdone⟩
        · have htells := (hmembers hinside).of_isSuffix (isSuffix_skipGaps rest)
          exact htells.of_opened (List.suffix_cons '\x7b' rest) (nestCost_brace rest)
        · cases hdone
  · exact tells_of_readPlain hread

include hvalue hitems in
theorem tells_of_readItems_succ (hread : readItems room (fuel + 1) t = .error e) :
    Tells room t e := by
  rw [readItems] at hread
  rcases bind_eq_error_iff.mp hread with hfirst | ⟨⟨v, middle⟩, hv, hread⟩
  · exact hvalue hfirst
  · have hmiddle := ((reads_of_eq_ok fuel).1 hv).shortens.isSuffix
    dsimp only at hread
    split at hread
    · rename_i after hcomma
      have hafter := (isSuffix_skipGaps after).trans (isSuffix_of_skipGaps_eq hcomma)
      rcases bind_eq_error_iff.mp hread with hmore | ⟨_, -, hdone⟩
      · exact (hitems hmore).of_isSuffix (hafter.trans hmiddle)
      · cases hdone
    · cases hread
    · cases hread
      trivial

include hvalue hmembers in
theorem tells_of_readMembers_succ (hread : readMembers room (fuel + 1) t = .error e) :
    Tells room t e := by
  unfold readMembers at hread
  split at hread
  · rename_i rest
    rcases bind_eq_error_iff.mp hread with hstring | ⟨⟨name, named⟩, hname, hread⟩
    · exact tells_of_readString hstring
    · have hnamed := (shortens_readText hname).isSuffix.trans (List.suffix_cons '"' rest)
      dsimp only at hread
      split at hread
      · rename_i after hcolon
        have hgap := (isSuffix_skipGaps after).trans (isSuffix_of_skipGaps_eq hcolon)
        have hafter := hgap.trans hnamed
        rcases bind_eq_error_iff.mp hread with hfirst | ⟨⟨v, middle⟩, hv, hread⟩
        · exact (hvalue hfirst).of_isSuffix hafter
        · have hmiddle := ((reads_of_eq_ok fuel).1 hv).shortens.isSuffix.trans hafter
          dsimp only at hread
          split at hread
          · rename_i next hcomma
            have hnext := (isSuffix_skipGaps next).trans (isSuffix_of_skipGaps_eq hcomma)
            rcases bind_eq_error_iff.mp hread with hmore | ⟨_, -, hdone⟩
            · exact (hmembers hmore).of_isSuffix (hnext.trans hmiddle)
            · cases hdone
          · cases hread
          · cases hread
            trivial
      · cases hread
        trivial
  · cases hread
    trivial

end

/-- The induction is on the fuel, for the three readers at once. -/
theorem tells_of_values (fuel : Nat) :
    (∀ {room t e}, readValue room fuel t = .error e → Tells room t e) ∧
    (∀ {room t e}, readItems room fuel t = .error e → Tells room t e) ∧
    ∀ {room t e}, readMembers room fuel t = .error e → Tells room t e := by
  induction fuel with
  | zero =>
    refine ⟨?_, ?_, ?_⟩ <;> intro room t e hread
    · rw [readValue] at hread
      cases hread
      trivial
    · rw [readItems] at hread
      cases hread
      trivial
    · rw [readMembers] at hread
      cases hread
      trivial
  | succ fuel ih =>
    obtain ⟨hvalue, hitems, hmembers⟩ := ih
    exact ⟨tells_of_readValue_succ hitems hmembers, tells_of_readItems_succ hvalue hitems,
      tells_of_readMembers_succ hvalue hmembers⟩

/-- A text is not read because it breaks the rules, because it has an integer with too many digits,
    or because its arrays and objects are nested too deeply, and then it shows it. -/
theorem tells_of_read_eq_error (hread : read t = .error e) : Tells depthLimit t e := by
  rcases bind_eq_error_iff.mp hread with hvalue | ⟨⟨v, rest⟩, -, hrest⟩
  · exact ((tells_of_values _).1 hvalue).of_isSuffix (isSuffix_skipGaps t)
  · dsimp only at hrest
    split at hrest
    · cases hrest
    · cases hrest
      trivial

end

end RecordFilter.Json
