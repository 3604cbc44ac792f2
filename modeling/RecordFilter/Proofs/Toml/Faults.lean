import RecordFilter.Proofs.Toml.Lexemes

/-!
Faults of a document of settings: what each of them tells of the text of the document.

A value is read with some room in the depth limit, of which every array and every table that it is
nested in has used up a part. The readers of values call one another, so what their faults tell is
shown for all of them at once.
-/

namespace RecordFilter.Toml

section

variable {α : Type} {room : Nat} {text rest : Text}

theorem nestCost_bracket (text : Text) : nestCost ('[' :: text) = nestCost text + arrayCost := by
  simp only [nestCost, List.count_cons_self, List.count_cons_of_ne (by decide : '[' ≠ '\x7b'),
    Nat.mul_add_one]
  omega

theorem nestCost_brace (text : Text) : nestCost ('\x7b' :: text) = nestCost text + tableCost := by
  simp only [nestCost, List.count_cons_self, List.count_cons_of_ne (by decide : '\x7b' ≠ '['),
    Nat.mul_add_one]
  omega

/-- What is read behind an opening bracket or brace has less room by the cost of it. -/
theorem Takes.of_opened {step : Except TomlError (α × Text)} {cost : Nat}
    (hstep : Takes (room - cost) rest step) (hrest : rest <:+ text)
    (hcost : nestCost text = nestCost rest + cost) : Takes room text step := by
  refine hstep.imp (fun _ hend => hend.trans hrest) fun e htells => ?_
  cases e with
  | malformed => trivial
  | tooManyDigits => exact HasLongNumber.of_isInfix htells hrest.isInfix
  | nestedTooDeeply =>
    change room - cost < nestCost rest at htells
    change room < nestCost text
    omega

/-- A bracket or brace that there is no room for. -/
theorem takes_nestedTooDeeply {cost : Nat} (hroom : room < cost)
    (hcost : nestCost text = nestCost rest + cost) :
    Takes (α := α) room text (.error .nestedTooDeeply) := by
  refine .error ?_
  change room < nestCost text
  omega

theorem ends_addInline (table : Table) (frozen : List Path) (path : Path) (item : Item) :
    Ends (fun _ => True) (Tells room text) (addInline table frozen path item) := by
  unfold addInline
  split
  · exact .error trivial
  · split
    · exact .error trivial
    · split
      · exact .ok trivial
      · exact .error trivial

theorem takes_plainValue (room : Nat) (text : Text) :
    Takes room text
      (((readTime? text).or ((readNumber? text).or (readNamed? text))).getD malformed) := by
  cases htime : readTime? text with
  | some step => exact takes_readTime? htime
  | none =>
    cases hnumber : readNumber? text with
    | some step => exact takes_readNumber? hnumber
    | none =>
      cases hnamed : readNamed? text with
      | some step => exact takes_readNamed? hnamed
      | none => exact takes_malformed

section

variable {fuel : Nat}
  (hvalue : ∀ room text, Takes room text (readValue room fuel text))
  (hitems : ∀ room items text, Takes room text (readItems room fuel items text))
  (hpair : ∀ room text, Takes room text (readPair room fuel text))
  (hentries : ∀ room table frozen text, Takes room text (readEntries room fuel table frozen text))

include hitems hentries in
theorem takes_readValue_succ (room : Nat) (text : Text) :
    Takes room text (readValue room (fuel + 1) text) := by
  unfold readValue
  split
  · rename_i step hstep
    exact (takes_readText? hstep).map fun _ _ => List.suffix_refl _
  · split
    · rename_i rest _
      split
      · exact takes_nestedTooDeeply ‹_› (nestCost_bracket rest)
      · refine Takes.of_opened ?_ (List.suffix_cons '[' rest) (nestCost_bracket rest)
        refine (skips_skipLines _ _ rest).then_takes fun rest => ?_
        exact (hitems _ [] rest).then_takes fun _ _ => .ok (List.suffix_refl _)
    · rename_i rest _
      have hgaps := (isSuffix_skipGaps rest).trans (List.suffix_cons '\x7b' rest)
      dsimp only
      split
      · rename_i after hclosed
        rw [hclosed] at hgaps
        exact .ok ((List.suffix_cons '\x7d' after).trans hgaps)
      · split
        · exact takes_nestedTooDeeply ‹_› (nestCost_brace rest)
        · refine Takes.of_opened ?_ (List.suffix_cons '\x7b' rest) (nestCost_brace rest)
          have hrest := (hentries (room - tableCost) [] [] (skipGaps rest)).of_isSuffix
            (isSuffix_skipGaps rest)
          exact hrest.then_takes fun _ _ => .ok (List.suffix_refl _)
    · split
      · exact .ok (List.drop_suffix _ _)
      · split
        · exact .ok (List.drop_suffix _ _)
        · exact takes_plainValue room text

include hvalue hitems in
theorem takes_readItems_succ (room : Nat) (items : List Item) (text : Text) :
    Takes room text (readItems room (fuel + 1) items text) := by
  unfold readItems
  split
  · exact .ok (List.suffix_cons _ _)
  · refine (hvalue room text).then_takes fun item rest => ?_
    refine (skips_skipLines room _ rest).then_takes fun rest => ?_
    split
    · rename_i rest
      have hmore := (skips_skipLines room (rest.length + 1) rest).then_takes fun rest =>
        hitems room (items ++ [item]) rest
      exact hmore.of_isSuffix (List.suffix_cons _ _)
    · exact .ok (List.suffix_cons _ _)
    · exact takes_malformed

include hvalue in
theorem takes_readPair_succ (room : Nat) (text : Text) :
    Takes room text (readPair room (fuel + 1) text) := by
  unfold readPair
  refine (takes_readPath room _ text).then_takes fun path rest => ?_
  dsimp only
  split
  · rename_i rest
    have hrest := (isSuffix_skipGaps rest).trans (List.suffix_cons '=' rest)
    refine ((hvalue room (skipGaps rest)).of_isSuffix hrest).then_takes fun _ _ => ?_
    exact .ok (List.suffix_refl _)
  · exact takes_malformed

include hpair hentries in
theorem takes_readEntries_succ (room : Nat) (table : Table) (frozen : List Path) (text : Text) :
    Takes room text (readEntries room (fuel + 1) table frozen text) := by
  unfold readEntries
  refine (hpair room text).then_takes fun (path, item) rest => ?_
  refine (ends_addInline table frozen path item).bind fun table _ => ?_
  have hgaps := isSuffix_skipGaps rest
  split
  · rename_i after hcomma
    rw [hcomma] at hgaps
    have hafter := (isSuffix_skipGaps after).trans (List.suffix_cons ',' after)
    exact (hentries room table _ (skipGaps after)).of_isSuffix (hafter.trans hgaps)
  · rename_i after hclosed
    rw [hclosed] at hgaps
    exact .ok ((List.suffix_cons '\x7d' after).trans hgaps)
  · exact takes_malformed

end

/-- The induction is on the fuel, for the four readers at once. -/
theorem takes_values (fuel : Nat) :
    (∀ room text, Takes room text (readValue room fuel text)) ∧
    (∀ room items text, Takes room text (readItems room fuel items text)) ∧
    (∀ room text, Takes room text (readPair room fuel text)) ∧
    ∀ room table frozen text, Takes room text (readEntries room fuel table frozen text) := by
  induction fuel with
  | zero =>
    refine ⟨?_, ?_, ?_, ?_⟩ <;> intros
    · rw [readValue]
      exact takes_malformed
    · rw [readItems]
      exact takes_malformed
    · rw [readPair]
      exact takes_malformed
    · rw [readEntries]
      exact takes_malformed
  | succ fuel ih =>
    obtain ⟨hvalue, hitems, hpair, hentries⟩ := ih
    exact ⟨takes_readValue_succ hitems hentries, takes_readItems_succ hvalue hitems,
      takes_readPair_succ hvalue, takes_readEntries_succ hpair hentries⟩

theorem ends_change (doc : Document) (path : Path) (f : Table → Option Table) :
    Ends (fun _ => True) (Tells room text) (doc.change path f) := by
  unfold Document.change
  split
  · exact .ok trivial
  · exact .error trivial

theorem ends_openTable (doc : Document) (path : Path) :
    Ends (fun _ => True) (Tells room text) (doc.openTable path) := by
  unfold Document.openTable
  split
  · exact .error trivial
  · exact ends_change _ path some

theorem ends_openElement (doc : Document) (path : Path) :
    Ends (fun _ => True) (Tells room text) (doc.openElement path) := by
  unfold Document.openElement
  split
  · exact .error trivial
  · split
    · exact .error trivial
    · exact ends_change _ _ _

theorem ends_addEntry (doc : Document) (path : Path) (item : Item) :
    Ends (fun _ => True) (Tells room text) (doc.addEntry path item) := by
  unfold Document.addEntry
  dsimp only
  split
  · exact .error trivial
  · split
    · exact .error trivial
    · split
      · exact .error trivial
      · exact (ends_change doc _ _).bind fun _ _ => .ok trivial

theorem takes_readHeader (room : Nat) (doc : Document) (text : Text) :
    Takes room text (readHeader doc text) := by
  unfold readHeader
  dsimp only
  split
  · rename_i rest
    have hrest := (isSuffix_skipGaps rest).trans (List.suffix_cons '[' rest)
    have hpath := (takes_readPath room (rest.length + 1) (skipGaps rest)).of_isSuffix hrest
    refine hpath.then_takes fun path rest => ?_
    refine (ends_openElement _ path).bind fun doc _ => ?_
    dsimp only
    split
    · exact .ok (List.suffix_append [']', ']'] _)
    · exact takes_malformed
  · have hpath := (takes_readPath room (text.length + 1) (skipGaps text)).of_isSuffix
      (isSuffix_skipGaps text)
    refine hpath.then_takes fun path rest => ?_
    refine (ends_openTable _ path).bind fun doc _ => ?_
    dsimp only
    split
    · exact .ok (List.suffix_cons _ _)
    · exact takes_malformed

theorem takes_readStatement (doc : Document) (text : Text) :
    Takes depthLimit text (readStatement doc text) := by
  unfold readStatement
  split
  · exact (takes_readHeader depthLimit doc _).of_isSuffix (List.suffix_cons _ _)
  · split
    · refine ((takes_values _).2.2.1 depthLimit _).then_takes fun (path, item) rest => ?_
      exact (ends_addEntry doc path item).bind fun _ _ => .ok (List.suffix_refl _)
    · split
      · exact .ok (List.suffix_refl _)
      · exact takes_malformed
  · exact .ok (List.suffix_refl _)

theorem ends_readStatements (fuel : Nat) (doc : Document) (text : Text) :
    Ends (fun _ => True) (Tells depthLimit text) (readStatements fuel doc text) := by
  induction fuel generalizing doc text with
  | zero => exact .ok trivial
  | succ fuel ih =>
    unfold readStatements
    have hgaps := isSuffix_skipGaps text
    split
    · exact .ok trivial
    · refine ((takes_readStatement doc _).of_isSuffix hgaps).bind fun (doc, rest) hrest => ?_
      have hcomment := (skips_skipComment depthLimit (skipGaps rest)).of_isSuffix
        ((isSuffix_skipGaps rest).trans hrest)
      refine hcomment.bind fun rest hrest => ?_
      split
      · exact .ok trivial
      · rename_i after
        have hafter := (List.suffix_cons '\n' after).trans hrest
        exact (ih doc after).imp (fun _ h => h) fun _ htells => htells.of_isSuffix hafter
      · exact .error trivial

/-- A line end in place of a carriage return and a line feed hides nothing that a fault tells. -/
theorem Tells.of_replaceAll {e : TomlError}
    (htells : Tells room (Text.replaceAll ['\r', '\n'] ['\n'] text) e) : Tells room text e := by
  cases e with
  | malformed => trivial
  | tooManyDigits =>
    obtain ⟨row, hrow, hchars, hdigits⟩ := htells
    have hapart : ∀ c ∈ row, c ∉ ['\n'] := by
      intro c hc hend
      obtain rfl := List.mem_singleton.mp hend
      exact absurd (hchars _ hc) (by decide)
    exact ⟨row, Text.isInfix_of_isInfix_replaceAll (by decide) (by decide) hapart hrow, hchars,
      hdigits⟩
  | nestedTooDeeply =>
    have hdeleted := Text.replaceAll_sublist (by decide : ['\r', '\n'] ≠ [])
      (List.sublist_cons_self '\r' ['\n']) text
    exact Nat.lt_of_lt_of_le htells (nestCost_le_of_sublist hdeleted)

/-- A document is not read because it breaks the rules, because it has a number with too many
    digits, or because its values are nested too deeply, and then its text shows it. -/
theorem tells_of_read_eq_error {e : TomlError} (hread : read text = .error e) :
    Tells depthLimit text e := by
  refine Tells.of_replaceAll ?_
  rcases bind_eq_error_iff.mp hread with hstatements | ⟨doc, -, htable⟩
  · exact (ends_readStatements _ {} _).of_eq_error hstatements
  · cases htable

end

end RecordFilter.Toml
