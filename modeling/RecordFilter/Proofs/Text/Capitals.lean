import RecordFilter.Proofs.Text.Lowering

/-!
Capitals: what the capital form of a letter is brought back to by the small form.

A capital form begins with a character that has a single small form, and that one has the first
character as its capital form (`exists_isCapitalOf`). Mostly the small form is the letter itself,
since most runs of small letters are undone by a run of capitals (`CaseRun.isUndone`); the letters of
the other runs and those with several capitals are few.
-/

namespace RecordFilter.Text

namespace CaseRun

variable {run other : CaseRun} {point : Nat}

/-- Whether the run takes all points of another one. -/
def includes (run other : CaseRun) : Bool :=
  Nat.ble run.first other.first && (Nat.ble other.last run.last &&
    (Nat.beq (other.step % run.step) 0 && Nat.beq ((other.first - run.first) % run.step) 0))

theorem Holds.of_includes (hrun : run.includes other) (hpoint : other.Holds point) :
    run.Holds point := by
  simp only [includes, Bool.and_eq_true, Nat.ble_eq, Nat.beq_eq] at hrun
  obtain ⟨hfirst, hlast, hstep, hstart⟩ := hrun
  obtain ⟨hlow, hhigh, hpoint⟩ := hpoint
  refine ⟨Nat.le_trans hfirst hlow, Nat.le_trans hhigh hlast, ?_⟩
  have hsum : point - run.first = (point - other.first) + (other.first - run.first) := by omega
  rw [hsum]
  refine Nat.mod_eq_zero_of_dvd (Nat.dvd_add ?_ (Nat.dvd_of_mod_eq_zero hstart))
  exact Nat.dvd_trans (Nat.dvd_of_mod_eq_zero hstep) (Nat.dvd_of_mod_eq_zero hpoint)

/-- The first run of capitals that may take the other cases of the run. -/
def undoing? (run : CaseRun) : Option CaseRun :=
  lowerRuns.find? fun other => !run.image.misses other

/-- Whether the other cases of the run are characters beyond the plain alphabet that have the points
    of the run as their small forms. -/
def isUndone (run : CaseRun) : Bool :=
  Nat.ble 128 run.image.first && (Nat.blt run.image.last 0xD800 ||
      (Nat.blt 0xDFFF run.image.first && Nat.blt run.image.last 0x110000)) &&
    run.image.misses ⟨304, 304, 1, -199⟩ &&
    run.undoing?.any fun other => other.includes run.image && other.distance == -run.distance

private theorem findSome?_eq_some_of_isUndone (hrun : run.isUndone) (hpoint : run.Holds point)
    (hplace : run.image.Holds (point + run.distance).toNat) :
    lowerRuns.findSome? (·.other? (point + run.distance).toNat) = some point := by
  simp only [isUndone, Bool.and_eq_true, Nat.ble_eq] at hrun
  obtain ⟨⟨⟨hbeyond, -⟩, -⟩, hback⟩ := hrun
  have hcancel : ((point + run.distance).toNat + -run.distance).toNat = point := by
    obtain ⟨hlow, -, -⟩ := hpoint
    simp only [CaseRun.image] at hbeyond
    omega
  obtain ⟨other, hother, hincludes⟩ := (Option.any_eq_true _ _).mp hback
  rw [Bool.and_eq_true, beq_iff_eq] at hincludes
  obtain ⟨-, before, after, hruns, hbefore⟩ := List.find?_eq_some_iff_append.mp hother
  have hnone : before.findSome? (·.other? (point + run.distance).toNat) = none := by
    rw [List.findSome?_eq_none_iff]
    intro missed hmissed
    have hmiss := hbefore missed hmissed
    rw [Bool.not_not] at hmiss
    rw [Option.eq_none_iff_forall_ne_some]
    intro found hfound
    exact not_holds_of_misses hmiss hplace (other?_eq_some_iff.mp hfound).1
  have hsome : other.other? (point + run.distance).toNat = some point :=
    other?_eq_some_iff.mpr ⟨hplace.of_includes hincludes.1, by rw [hincludes.2, hcancel]⟩
  rw [hruns, List.findSome?_append, hnone, Option.none_or, List.findSome?_cons, hsome]

/-- The capital of a letter in a run that is undone has the letter as its small form. -/
theorem lowerChar_of_isUndone {c : Char} (hrun : run.isUndone) (hc : run.Holds c.toNat) :
    lowerChar (Char.ofNat (c.toNat + run.distance).toNat) = [c] := by
  have hundone := hrun
  simp only [isUndone, Bool.and_eq_true, Bool.or_eq_true, Nat.ble_eq, Nat.blt_eq] at hundone
  obtain ⟨⟨⟨hbeyond, hvalid⟩, hdotted⟩, -⟩ := hundone
  have hplace : run.image.Holds (c.toNat + run.distance).toNat := by
    refine hc.image ?_
    simp only [CaseRun.image] at hbeyond
    omega
  have hcode : (Char.ofNat (c.toNat + run.distance).toNat).toNat =
      (c.toNat + run.distance).toNat := by
    have hchar : Nat.isValidChar (c.toNat + run.distance).toNat := by
      obtain ⟨hlow, hhigh, -⟩ := hplace
      rw [Nat.isValidChar]
      omega
    rw [Char.ofNat, dif_pos hchar]
    rfl
  rw [lowerChar, hcode, if_neg, if_neg, findSome?_eq_some_of_isUndone hrun hc hplace]
  · exact congrArg (fun d => [d]) (Char.ofNat_toNat c)
  · intro heq
    rw [heq] at hcode
    refine not_holds_of_misses hdotted hplace ?_
    rw [← hcode]
    exact ⟨Nat.le_refl _, Nat.le_refl _, rfl⟩
  · exact Nat.not_lt.mpr (Nat.le_trans hbeyond hplace.1)

end CaseRun

/-- The capital form of a letter begins with a character that has a single small form, which has that
    character as its capital form. In plain letters this is the small form of the letter itself, but
    for a small `i` without a dot and a long `s`, unless something behind the first capital has a
    small form other than itself. -/
structure IsCapitalOf (head : Char) (tail : Text) (small c : Char) : Prop where
  upper : upperChar c = head :: tail
  lower_head : lowerChar head = [small]
  upper_small : upperChar small = [head]
  origin : (small = c ∧ tail = []) ∨ (∃ d ∈ small :: tail, 128 ≤ d.toNat) ∨
    (∃ d ∈ tail, lowerChar d ≠ [d]) ∨ c = 'ı' ∨ c = 'ſ'

/-- Whether the capital form of a letter is as described (`IsCapitalOf`). -/
def hasCapital (c : Char) : Bool :=
  match upperChar c with
  | [] => false
  | head :: tail =>
    match lowerChar head with
    | [small] => upperChar small == [head] &&
        ((small == c && tail.isEmpty) || (small :: tail).any (128 ≤ ·.toNat) ||
          tail.any (fun d => lowerChar d != [d]) || c == 'ı' || c == 'ſ')
    | _ => false

theorem exists_of_hasCapital {c : Char} (hc : hasCapital c) :
    ∃ head tail small, IsCapitalOf head tail small c := by
  unfold hasCapital at hc
  split at hc
  · cases hc
  rename_i head tail hupper
  split at hc
  · rename_i small hlower
    simp only [Bool.and_eq_true, Bool.or_eq_true, beq_iff_eq, List.isEmpty_iff, List.any_eq_true,
      decide_eq_true_eq, bne_iff_ne, or_assoc] at hc
    exact ⟨head, tail, small, hupper, hlower, hc.1, hc.2⟩
  · cases hc

private theorem hasCapital_plain : ∀ n : Fin 128,
    lowerChar (Char.ofNat n) = [Char.ofNat n] → hasCapital (Char.ofNat n) := by
  decide

private theorem hasCapital_sequences :
    (upperSequences.all fun entry => hasCapital (Char.ofNat entry.1)) = true := by
  decide +kernel

/-- Only runs of one or two letters are not undone. -/
private theorem isUndone_or_hasCapital :
    (upperRuns.all fun run => run.isUndone || Nat.blt run.last 128 ||
      (Nat.ble run.last (run.first + 1) && hasCapital (Char.ofNat run.first) &&
        hasCapital (Char.ofNat run.last))) = true := by
  decide +kernel

/-- The capital form of a letter that is its own small form. -/
theorem exists_isCapitalOf {c : Char} (hc : lowerChar c = [c]) :
    ∃ head tail small, IsCapitalOf head tail small c := by
  by_cases hplain : c.toNat < 128
  · have hcapital := hasCapital_plain ⟨c.toNat, hplain⟩
    simp only [Char.ofNat_toNat] at hcapital
    exact exists_of_hasCapital (hcapital hc)
  cases hlookup : upperSequences.lookup c.toNat with
  | some points =>
    obtain ⟨before, after, hsplit, -⟩ := List.lookup_eq_some_iff.mp hlookup
    have hentry : (c.toNat, points) ∈ upperSequences := by
      rw [hsplit]
      exact List.mem_append_right _ List.mem_cons_self
    have hcapital := List.all_eq_true.mp hasCapital_sequences _ hentry
    rw [Char.ofNat_toNat] at hcapital
    exact exists_of_hasCapital hcapital
  | none =>
    cases hfound : upperRuns.findSome? (·.other? c.toNat) with
    | none =>
      have hupper : upperChar c = [c] := by rw [upperChar, if_neg hplain, hlookup, hfound]
      exact ⟨c, [], c, hupper, hc, hupper, .inl ⟨rfl, rfl⟩⟩
    | some point =>
      obtain ⟨run, hrun, hother⟩ := List.exists_of_findSome?_eq_some hfound
      obtain ⟨hholds, rfl⟩ := CaseRun.other?_eq_some_iff.mp hother
      have hupper : upperChar c = [Char.ofNat (c.toNat + run.distance).toNat] := by
        rw [upperChar, if_neg hplain, hlookup, hfound]
      have hcheck := List.all_eq_true.mp isUndone_or_hasCapital run hrun
      simp only [Bool.or_eq_true, Bool.and_eq_true, Nat.blt_eq, Nat.ble_eq] at hcheck
      rcases hcheck with (hundone | hlast) | ⟨⟨hshort, hfirst⟩, hlast⟩
      · exact ⟨_, [], c, hupper, CaseRun.lowerChar_of_isUndone hundone hholds, hupper,
          .inl ⟨rfl, rfl⟩⟩
      · exact absurd (Nat.lt_of_le_of_lt hholds.2.1 hlast) hplain
      · have hends : c.toNat = run.first ∨ c.toNat = run.last := by
          obtain ⟨hlow, hhigh, -⟩ := hholds
          omega
        rcases hends with hend | hend
        · rw [← hend, Char.ofNat_toNat] at hfirst
          exact exists_of_hasCapital hfirst
        · rw [← hend, Char.ofNat_toNat] at hlast
          exact exists_of_hasCapital hlast

end RecordFilter.Text
