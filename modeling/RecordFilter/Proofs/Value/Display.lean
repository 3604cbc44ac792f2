import RecordFilter.Json.Writer
import RecordFilter.Proofs.Number.Range

/-!
Which values have a text.

Plain data have one unless they are nested too deeply. The denotation of a value needs as much room
as the value is high (`Needs`), and with less room nothing else goes wrong than the nesting.
-/

namespace RecordFilter

theorem writtenLimit_eq : writtenLimit = 10 ^ digitLimit := by
  unfold writtenLimit
  generalize digitLimit = limit
  rfl

theorem integerText_of_lt {i : Int} (hi : i.natAbs < 10 ^ digitLimit) :
    integerText i = .ok (Text.ofInt i) := by
  rw [integerText, writtenLimit_eq, if_pos hi]

/-- An integer in the range of floating point numbers has few digits. -/
theorem lt_pow_digitLimit {n : Nat} (hn : n < Binary64.integerLimit) : n < 10 ^ digitLimit := by
  obtain ⟨digits, hdigits, hrange⟩ :
      ∃ digits ≤ digitLimit, Binary64.integerLimit ≤ 10 ^ digits :=
    ⟨400, by decide, by decide +kernel⟩
  exact Nat.lt_of_lt_of_le hn
    (Nat.le_trans hrange (Nat.pow_le_pow_right (by decide) hdigits))

namespace Json

theorem heightOfAll_le_iff {items : List Value} {n : Nat} :
    heightOfAll items ≤ n ↔ ∀ item ∈ items, height item ≤ n := by
  induction items with
  | nil => simp [heightOfAll]
  | cons item items ih => rw [heightOfAll, Nat.max_le, ih, List.forall_mem_cons]

theorem heightOfEntries_le_iff {entries : List (Text × Value)} {n : Nat} :
    heightOfEntries entries ≤ n ↔ ∀ entry ∈ entries, height entry.2 ≤ n := by
  induction entries with
  | nil => simp [heightOfEntries]
  | cons entry entries ih => rw [heightOfEntries, Nat.max_le, ih, List.forall_mem_cons]

theorem height_texts_le (texts : List Text) : height (.list (texts.map .text)) ≤ 2 := by
  refine Nat.succ_le_succ (heightOfAll_le_iff.mpr fun item hitem => ?_)
  obtain ⟨t, -, rfl⟩ := List.mem_map.mp hitem
  exact Nat.le_refl 1

theorem height_pos (v : Value) : 0 < height v := by
  cases v <;> exact Nat.succ_pos _

theorem height_ofScalar (s : Scalar) : height (.ofScalar s) = 1 := by
  cases s <;> rfl

end Json

namespace Value

/-- What records of plain data hold and what clauses are read as, however deeply it is nested: values
    in which no integer has more digits than are converted. Sizes are whole parts of floating point
    numbers. -/
inductive Convertible : Value → Prop
  | null : Convertible null
  | boolean (b : Bool) : Convertible (boolean b)
  | integer {i : Int} (hi : i.natAbs < 10 ^ digitLimit) : Convertible (integer i)
  | float (x : Binary64) : Convertible (float x)
  | size {n : Int} (hn : n.natAbs < Binary64.integerLimit) : Convertible (size n)
  | duration (d : Duration) : Convertible (duration d)
  | text (t : Text) : Convertible (text t)
  | tuple {items : List Value} (hitems : ∀ item ∈ items, Convertible item) :
      Convertible (tuple items)
  | list {items : List Value} (hitems : ∀ item ∈ items, Convertible item) :
      Convertible (list items)
  | dict {entries : List (Text × Value)} (hentries : ∀ entry ∈ entries, Convertible entry.2) :
      Convertible (dict entries)

/-- More values are nested in one another than can be denoted. -/
def TooDeep (v : Value) : Prop :=
  nestingLimit < Json.height v

/-- Only rows and dictionaries are nested. -/
theorem TooDeep.cases {v : Value} (hdeep : v.TooDeep) :
    (∃ items, v = tuple items) ∨ (∃ items, v = list items) ∨ ∃ entries, v = dict entries := by
  have hone : ¬ nestingLimit < 1 := by decide
  cases v with
  | tuple items => exact Or.inl ⟨items, rfl⟩
  | list items => exact Or.inr (Or.inl ⟨items, rfl⟩)
  | dict entries => exact Or.inr (Or.inr ⟨entries, rfl⟩)
  | _ => exact absurd hdeep hone

/-- The values that can be written out. -/
structure Writable (v : Value) : Prop where
  convertible : v.Convertible
  shallow : ¬ v.TooDeep

/-- The result is there if there is room for the height. With less room, the nesting is at fault. -/
structure Needs {α : Type} (height room : Nat) (result : Except Fault α) : Prop where
  exists_of_le : height ≤ room → ∃ found, result = .ok found
  error_of_lt : room < height → result = .error .nestedTooDeeply

namespace Needs

variable {α β γ : Type} {height other room : Nat} {x : Except Fault α} {y : Except Fault β}

theorem ok (h : height ≤ room) (found : α) : Needs height room (.ok found) :=
  ⟨fun _ => ⟨found, rfl⟩, fun hlt => absurd h (Nat.not_le.mpr hlt)⟩

/-- Something around the result takes one more place of the room. -/
theorem around (h : Needs height room x) (f : α → β) :
    Needs (height + 1) (room + 1) (x >>= fun found => pure (f found)) where
  exists_of_le hle := by
    obtain ⟨found, rfl⟩ := h.exists_of_le (Nat.le_of_succ_le_succ hle)
    exact ⟨f found, rfl⟩
  error_of_lt hlt := by
    rw [h.error_of_lt (Nat.lt_of_succ_lt_succ hlt)]
    rfl

/-- Two results in the same room need as much as the higher one. -/
theorem both (hx : Needs height room x) (hy : Needs other room y) (f : α → β → γ) :
    Needs (max height other) room (x >>= fun a => y >>= fun b => pure (f a b)) where
  exists_of_le hle := by
    obtain ⟨a, rfl⟩ := hx.exists_of_le (Nat.max_le.mp hle).1
    obtain ⟨b, rfl⟩ := hy.exists_of_le (Nat.max_le.mp hle).2
    exact ⟨f a b, rfl⟩
  error_of_lt hlt := by
    by_cases hfirst : height ≤ room
    · obtain ⟨a, rfl⟩ := hx.exists_of_le hfirst
      rw [hy.error_of_lt (by omega)]
      rfl
    · rw [hx.error_of_lt (Nat.not_le.mp hfirst)]
      rfl

end Needs

private theorem needs_denotedAll {room : Nat} {items : List Value}
    (hitems : ∀ item ∈ items, Needs (Json.height item) room (denotedWithin room item)) :
    Needs (Json.heightOfAll items) room (denotedAll room items) := by
  induction items with
  | nil => exact .ok (Nat.zero_le room) []
  | cons item items ih =>
    rw [denotedAll, Json.heightOfAll]
    obtain ⟨hitem, hrest⟩ := List.forall_mem_cons.mp hitems
    exact hitem.both (ih hrest) _

private theorem needs_denotedEntries {room : Nat} {entries : List (Text × Value)}
    (hentries : ∀ entry ∈ entries,
      Needs (Json.height entry.2) room (denotedWithin room entry.2)) :
    Needs (Json.heightOfEntries entries) room (denotedEntries room entries) := by
  induction entries with
  | nil => exact .ok (Nat.zero_le room) []
  | cons entry entries ih =>
    rw [denotedEntries, Json.heightOfEntries]
    obtain ⟨hentry, hrest⟩ := List.forall_mem_cons.mp hentries
    exact hentry.both (ih hrest) _

/-- Without room there is no denotation, whatever the value is. -/
private theorem needs_of_succ {v : Value}
    (h : ∀ room, Needs (Json.height v) (room + 1) (denotedWithin (room + 1) v)) (room : Nat) :
    Needs (Json.height v) room (denotedWithin room v) := by
  cases room with
  | zero =>
    refine ⟨fun hle => absurd hle (Nat.not_le.mpr (Json.height_pos v)), fun _ => ?_⟩
    rw [denotedWithin]
  | succ room => exact h room

/-- A value needs as much room as it is high. -/
theorem Convertible.needs {v : Value} (hv : v.Convertible) :
    ∀ room, Needs (Json.height v) room (denotedWithin room v) := by
  -- The room varies: what is inside of a value is left with one place less.
  induction hv <;> refine needs_of_succ fun room => ?_ <;> rw [denotedWithin]
  case null | boolean | float | duration | text => exact .ok (Nat.succ_pos room) _
  case integer hi =>
    rw [integerText_of_lt hi]
    exact .ok (Nat.succ_pos room) _
  case size hn =>
    rw [integerText_of_lt (lt_pow_digitLimit hn)]
    exact .ok (Nat.succ_pos room) _
  case tuple ih | list ih =>
    exact (needs_denotedAll fun item hitem => ih item hitem room).around _
  case dict ih =>
    exact (needs_denotedEntries fun entry hentry => ih entry hentry room).around _

/-- A value has a text, unless its nesting is at fault. -/
theorem Convertible.needs_display {v : Value} (hv : v.Convertible) :
    Needs (Json.height v) nestingLimit v.display := by
  have hdenoted := hv.needs nestingLimit
  have hone : 1 ≤ nestingLimit := by decide
  cases hv with
  | integer hi =>
    rw [display, integerText_of_lt hi]
    exact .ok hone _
  | size hn =>
    rw [display, integerText_of_lt (lt_pow_digitLimit hn)]
    exact .ok hone _
  | tuple _ | list _ | dict _ => exact hdenoted
  | _ => exact .ok hone _

theorem Writable.exists_display {v : Value} (hv : v.Writable) : ∃ t, v.display = .ok t :=
  hv.convertible.needs_display.exists_of_le (Nat.not_lt.mp hv.shallow)

theorem Convertible.display_of_tooDeep {v : Value} (hv : v.Convertible) (hdeep : v.TooDeep) :
    v.display = .error .nestedTooDeeply :=
  hv.needs_display.error_of_lt hdeep

end Value

end RecordFilter
