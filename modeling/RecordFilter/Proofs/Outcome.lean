import Mathlib.Data.List.Forall2

/-!
Steps that may fail, one after the other: when a row of them succeeds, and with what.
-/

namespace RecordFilter

theorem bind_eq_ok_iff {ε α β : Type} {x : Except ε α} {f : α → Except ε β} {b : β} :
    (x >>= f) = .ok b ↔ ∃ a, x = .ok a ∧ f a = .ok b := by
  cases x <;> simp [bind, Except.bind]

/-- A fault comes from the first step, or from the second one after the first has succeeded. -/
theorem bind_eq_error_iff {ε α β : Type} {x : Except ε α} {f : α → Except ε β} {e : ε} :
    (x >>= f) = .error e ↔ x = .error e ∨ ∃ a, x = .ok a ∧ f a = .error e := by
  cases x <;> simp [bind, Except.bind]

theorem map_eq_ok_iff {ε α β : Type} {x : Except ε α} {f : α → β} {b : β} :
    x.map f = .ok b ↔ ∃ a, x = .ok a ∧ f a = b := by
  cases x <;> simp [Except.map]

theorem map_eq_error_iff {ε α β : Type} {x : Except ε α} {f : α → β} {e : ε} :
    x.map f = .error e ↔ x = .error e := by
  cases x <;> simp [Except.map]

theorem toOption_eq_some_iff {ε α : Type} {x : Except ε α} {a : α} :
    x.toOption = some a ↔ x = .ok a := by
  cases x <;> simp [Except.toOption]

theorem isSome_toOption_map_iff {ε α β : Type} {x : Except ε α} {f : α → β} :
    (x.map f).toOption.isSome ↔ ∃ a, x = .ok a := by
  cases x <;> simp [Except.map, Except.toOption]

/-- What comes of a step: its result has a property, or its fault has one. -/
inductive Ends {ε α : Type} (result : α → Prop) (fault : ε → Prop) : Except ε α → Prop
  | ok {a : α} (ha : result a) : Ends result fault (.ok a)
  | error {e : ε} (he : fault e) : Ends result fault (.error e)

namespace Ends

variable {ε α β : Type} {x : Except ε α} {result : α → Prop} {fault : ε → Prop}

theorem of_eq_error (hx : Ends result fault x) {e : ε} (he : x = .error e) : fault e := by
  cases hx with
  | ok => cases he
  | error hfault => rwa [← Except.error.inj he]

theorem imp (hx : Ends result fault x) {other : α → Prop} {otherFault : ε → Prop}
    (hresult : ∀ a, result a → other a) (hfault : ∀ e, fault e → otherFault e) :
    Ends other otherFault x := by
  cases hx with
  | ok ha => exact .ok (hresult _ ha)
  | error he => exact .error (hfault _ he)

theorem bind (hx : Ends result fault x) {next : α → Except ε β} {other : β → Prop}
    (hnext : ∀ a, result a → Ends other fault (next a)) : Ends other fault (x >>= next) := by
  cases hx with
  | ok ha => exact hnext _ ha
  | error he => exact .error he

theorem map (hx : Ends result fault x) {f : α → β} {other : β → Prop}
    (hf : ∀ a, result a → other (f a)) : Ends other fault (x.map f) := by
  cases hx with
  | ok ha => exact .ok (hf _ ha)
  | error he => exact .error he

end Ends

/-- What is related to a row of items is related to one of them. -/
theorem exists_mem_of_forall₂ {α β : Type} {R : α → β → Prop} {items : List α} {results : List β}
    (hrow : List.Forall₂ R items results) : ∀ result ∈ results, ∃ item ∈ items, R item result := by
  induction hrow with
  | nil => simp
  | @cons item first items results hfirst _ ih =>
    intro result hresult
    rcases List.mem_cons.mp hresult with rfl | hresult
    · exact ⟨item, List.mem_cons_self, hfirst⟩
    · obtain ⟨other, hmem, hother⟩ := ih result hresult
      exact ⟨other, List.mem_cons_of_mem _ hmem, hother⟩

/-- A row of steps succeeds if each of them does, with their results in order. -/
theorem mapM_eq_ok_iff {ε α β : Type} {f : α → Except ε β} {items : List α} {results : List β} :
    items.mapM f = .ok results ↔
      List.Forall₂ (fun item result => f item = .ok result) items results := by
  constructor
  · intro hresults
    induction items generalizing results with
    | nil =>
      rw [← Except.ok.inj hresults]
      exact .nil
    | cons item items ih =>
      rw [List.mapM_cons, bind_eq_ok_iff] at hresults
      obtain ⟨result, hitem, hrest⟩ := hresults
      rw [bind_eq_ok_iff] at hrest
      obtain ⟨others, hothers, hcons⟩ := hrest
      rw [← Except.ok.inj hcons]
      exact .cons hitem (ih hothers)
  · intro hresults
    induction hresults with
    | nil => rfl
    | cons hitem _ ih =>
      rw [List.mapM_cons, hitem, ih]
      rfl

/-- Faults can be told in other terms before or after a row of steps. -/
theorem mapM_mapError {ε δ α β : Type} (g : ε → δ) (f : α → Except ε β) (items : List α) :
    items.mapM (fun item => (f item).mapError g) = (items.mapM f).mapError g := by
  induction items with
  | nil => rfl
  | cons item items ih =>
    rw [List.mapM_cons, List.mapM_cons, ih]
    cases f item with
    | error e => rfl
    | ok result => cases items.mapM f <;> rfl

/-- What comes of each step of a row comes of the row. -/
theorem ends_mapM {ε α β : Type} {f : α → Except ε β} {fault : ε → Prop} {items : List α}
    (hf : ∀ item, Ends (fun _ => True) fault (f item)) :
    Ends (fun _ => True) fault (items.mapM f) := by
  induction items with
  | nil => exact .ok trivial
  | cons item items ih =>
    rw [List.mapM_cons]
    refine (hf item).bind fun _ _ => ?_
    refine ih.bind fun _ _ => ?_
    exact .ok trivial

/-- If a step can only succeed with one result, a row of steps can only succeed with those. -/
theorem eq_map_of_mapM_eq_ok {ε α β : Type} {f : α → Except ε β} {g : α → β}
    (hresult : ∀ {item result}, f item = .ok result → result = g item) {items : List α}
    {results : List β} (hitems : items.mapM f = .ok results) : results = items.map g := by
  have hrow : List.Forall₂ (fun item result => g item = result) items results :=
    (mapM_eq_ok_iff.mp hitems).imp fun _ _ hitem => (hresult hitem).symm
  rw [← List.forall₂_map_left_iff (R := Eq), List.forall₂_eq_eq_eq] at hrow
  exact hrow.symm

/-- A row of steps fails if one of them does. -/
theorem exists_mapM_eq_error_iff {ε α β : Type} {f : α → Except ε β} {items : List α} :
    (∃ e, items.mapM f = .error e) ↔ ∃ item ∈ items, ∃ e, f item = .error e := by
  induction items with
  | nil => simp [pure, Except.pure]
  | cons item items ih =>
    cases hitem : f item with
    | error e => simp [hitem, bind, Except.bind]
    | ok result =>
      have hrest : (∃ e, (item :: items).mapM f = .error e) ↔ ∃ e, items.mapM f = .error e := by
        rw [List.mapM_cons, hitem]
        cases items.mapM f <;> simp [bind, Except.bind, pure, Except.pure]
      rw [hrest, ih]
      simp [hitem]

theorem exists_mapM_eq_ok_iff {ε α β : Type} {f : α → Except ε β} {items : List α} :
    (∃ results, items.mapM f = .ok results) ↔ ∀ item ∈ items, ∃ result, f item = .ok result := by
  have hone : ∀ {γ : Type} (x : Except ε γ), (∃ c, x = .ok c) ↔ ¬ ∃ e, x = .error e := by
    rintro γ (e | c) <;> simp
  simp only [hone, exists_mapM_eq_error_iff, not_exists, not_and]

/-- A row of steps fails with the fault of the first step that does. -/
theorem mapM_eq_error_iff {ε α β : Type} {f : α → Except ε β} {items : List α} {e : ε} :
    items.mapM f = .error e ↔
      ∃ before item after, items = before ++ item :: after ∧
        (∀ other ∈ before, ∃ result, f other = .ok result) ∧ f item = .error e := by
  induction items with
  | nil => simp [pure, Except.pure]
  | cons item items ih =>
    cases hitem : f item with
    | error fault =>
      constructor
      · intro hfails
        have hfault : fault = e := by simpa [hitem, bind, Except.bind] using hfails
        exact ⟨[], item, items, rfl, nofun, by rw [hitem, hfault]⟩
      · rintro ⟨before, failing, after, hsplit, hbefore, hfails⟩
        cases before with
        | nil =>
          obtain ⟨rfl, rfl⟩ := List.cons.inj hsplit
          simp [hfails, bind, Except.bind]
        | cons first before =>
          obtain ⟨rfl, rfl⟩ := List.cons.inj hsplit
          obtain ⟨result, hresult⟩ := hbefore item List.mem_cons_self
          rw [hitem] at hresult
          cases hresult
    | ok result =>
      have hrest : (item :: items).mapM f = .error e ↔ items.mapM f = .error e := by
        rw [List.mapM_cons, hitem]
        cases items.mapM f <;> simp [bind, Except.bind, pure, Except.pure]
      rw [hrest, ih]
      constructor
      · rintro ⟨before, failing, after, rfl, hbefore, hfails⟩
        refine ⟨item :: before, failing, after, rfl, ?_, hfails⟩
        intro other hother
        rcases List.mem_cons.mp hother with rfl | hother
        · exact ⟨result, hitem⟩
        · exact hbefore other hother
      · rintro ⟨before, failing, after, hsplit, hbefore, hfails⟩
        cases before with
        | nil =>
          obtain ⟨rfl, rfl⟩ := List.cons.inj hsplit
          rw [hitem] at hfails
          cases hfails
        | cons first before =>
          obtain ⟨rfl, rfl⟩ := List.cons.inj hsplit
          exact ⟨before, failing, after, rfl,
            fun other hother => hbefore other (List.mem_cons_of_mem _ hother), hfails⟩

private theorem filterAuxM_eq_ok {ε α : Type} {p : α → Except ε Bool} {q : α → Bool}
    {items : List α} (hitems : ∀ item ∈ items, p item = .ok (q item)) (kept : List α) :
    List.filterAuxM p items kept = .ok ((items.filter q).reverse ++ kept) := by
  induction items generalizing kept with
  | nil => rfl
  | cons item items ih =>
    rw [List.filterAuxM, hitems item List.mem_cons_self]
    have hrest := ih fun other hother => hitems other (List.mem_cons_of_mem _ hother)
    cases hq : q item <;> simp [bind, Except.bind, hrest, hq]

/-- A selection in which every question is answered keeps the items whose answer is yes. -/
theorem filterM_eq_ok_filter {ε α : Type} {p : α → Except ε Bool} {q : α → Bool}
    {items : List α} (hitems : ∀ item ∈ items, p item = .ok (q item)) :
    items.filterM p = .ok (items.filter q) := by
  simp [List.filterM, filterAuxM_eq_ok hitems, bind, Except.bind, pure, Except.pure]

end RecordFilter
