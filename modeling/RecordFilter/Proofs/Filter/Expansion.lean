import RecordFilter.Proofs.Clause.Comparisons
import RecordFilter.Proofs.Filter.Combination

/-!
A list says the same as its words one by one: being in it is being equal to one of them, and not
being in it is differing from each.

A list compares the text of a field with its words, and an equality compares it with the text of the
value that the word is read as. Both agree on words that are read as a value with their own text.
-/

namespace RecordFilter

/-- The text of a field, if the record has the field. -/
def Record.shown (record : Record) (field : Text) : Except Fault (Option Text) :=
  match record.lookup field with
  | none => .ok none
  | some value => value.display.map some

namespace Operator

variable {a b : Value} {v : Text}

theorem negate_map {β : Type} {shown : Except Fault β} {answer : β → Bool} :
    negate (shown.map answer) = shown.map fun s => !answer s := by
  cases shown <;> rfl

theorem isMember_tuple (a : Value) (words : List Text) :
    isMember a (.tuple (words.map .text)) = a.display.map words.contains := by
  rw [isMember, Value.texts?_map_text]

theorem isEqual_of_display (hb : b.display = .ok v) :
    isEqual a b = a.display.map fun shown => decide (shown = v) := by
  rw [isEqual, hb]
  cases a.display <;> rfl

end Operator

namespace Expression

variable {e : Expression} {field v : Text} {record : Record}

/-- A condition that depends on the text of a field only, and is not met without the field. -/
theorem holds_eq_shown {test : Text → Bool}
    (htest : ∀ a, e.operator.holds a e.value = a.display.map test) :
    e.holds record = (record.shown e.field).map (·.any test) := by
  rw [holds, Record.shown]
  cases record.lookup e.field with
  | none => rfl
  | some a =>
    dsimp only
    rw [htest]
    cases a.display <;> rfl

theorem holds_isIn (field : Text) (words : List Text) :
    (listing field .isIn words).holds record = (record.shown field).map (·.any words.contains) :=
  holds_eq_shown fun a => Operator.isMember_tuple a words

theorem holds_notIn (field : Text) (words : List Text) :
    (listing field .notIn words).holds record =
      (record.shown field).map (·.any fun shown => !words.contains shown) :=
  holds_eq_shown fun a =>
    (congrArg Operator.negate (Operator.isMember_tuple a words)).trans Operator.negate_map

theorem holds_equals (field : Text)
    (hcanonical : (Value.ofScalar (Scalar.read v)).display = .ok v) :
    (comparing field .equals v).holds record =
      (record.shown field).map (·.any fun shown => decide (shown = v)) :=
  holds_eq_shown fun _ => Operator.isEqual_of_display hcanonical

theorem holds_notEquals (field : Text)
    (hcanonical : (Value.ofScalar (Scalar.read v)).display = .ok v) :
    (comparing field .notEquals v).holds record =
      (record.shown field).map (·.any fun shown => !decide (shown = v)) :=
  holds_eq_shown fun _ =>
    (congrArg Operator.negate (Operator.isEqual_of_display hcanonical)).trans Operator.negate_map

end Expression

section

variable {words : List Text} (shown : Option Text)

theorem any_contains_eq :
    shown.any words.contains = words.any fun v => shown.any fun s => decide (s = v) := by
  cases shown with
  | none => simp
  | some s =>
    rw [Bool.eq_iff_iff]
    simp

theorem any_not_contains_eq (hsome : words ≠ []) :
    (shown.any fun s => !words.contains s) =
      words.all fun v => shown.any fun s => !decide (s = v) := by
  cases shown with
  | none =>
    -- Without the field no difference holds, and there is a word that one is asked for.
    simp [List.exists_mem_of_ne_nil words hsome]
  | some s =>
    rw [Bool.eq_iff_iff]
    simpa using List.forall_mem_ne.symm

end

open Clause

namespace Filter

variable {key : Text} {words : List Text} {f g : Filter}

/-- A text is in the list exactly if one of the equalities holds of it. -/
theorem holds_isIn_eq (hsome : words ≠ [])
    (hcanonical : ∀ v ∈ words, (Value.ofScalar (Scalar.read v)).display = .ok v)
    (hf : f.expressions = [.listing key .isIn words])
    (hg : g.expressions = words.map (.comparing key .equals)) (hany : g.isAny) (record : Record) :
    f.holds record = g.holds record := by
  rw [holds_of_singleton hf, Expression.holds_isIn, holds_eq_map hg hsome
    fun v hv => Expression.holds_equals key (hcanonical v hv)]
  simp only [if_pos hany, any_contains_eq]

/-- A text is not in the list exactly if all differences hold of it. -/
theorem holds_notIn_eq (hsome : words ≠ [])
    (hcanonical : ∀ v ∈ words, (Value.ofScalar (Scalar.read v)).display = .ok v)
    (hf : f.expressions = [.listing key .notIn words])
    (hg : g.expressions = words.map (.comparing key .notEquals)) (hall : ¬ g.isAny)
    (record : Record) : f.holds record = g.holds record := by
  rw [holds_of_singleton hf, Expression.holds_notIn, holds_eq_map hg hsome
    fun v hv => Expression.holds_notEquals key (hcanonical v hv)]
  simp only [if_neg hall, any_not_contains_eq _ hsome]

/-- The filter of a list and the filter of its words one by one, with the logic for it, are both
    read and have the same answer on every record, faults included. The words are such that are read
    as values with their own text. -/
theorem holds_list_eq_comparisons (aliases : AliasTable) {field : Text} (hne : field ≠ [])
    (hfield : Word field) (hsome : words ≠ []) (hwords : ∀ v ∈ words, Word v ∧ ',' ∉ v)
    (hcanonical : ∀ v ∈ words, (Value.ofScalar (Scalar.read v)).display = .ok v) (logic : Text) :
    (∃ listed compared,
        parse aliases (field ++ (Operator.isIn.token ++ listText words)) logic = .ok listed ∧
        parse aliases (Text.join [' '] (comparisons field .equals words)) orLogic = .ok compared ∧
        ∀ record, listed.holds record = compared.holds record) ∧
      ∃ listed compared,
        parse aliases (field ++ (Operator.notIn.token ++ listText words)) logic = .ok listed ∧
        parse aliases (Text.join [' '] (comparisons field .notEquals words)) andLogic =
          .ok compared ∧
        ∀ record, listed.holds record = compared.holds record := by
  have hword : ∀ v ∈ words, Word v := fun v hv => (hwords v hv).1
  have hlistable : ∀ v ∈ words, Listable v :=
    fun v hv => ⟨(hwords v hv).1.solid, (hwords v hv).2⟩
  have hkept : withoutOuter words = words := withoutOuter_of_bare fun v hv => (hword v hv).toBare
  constructor
  · refine ⟨_, _, parse_listText rfl hne hfield.solid hsome hlistable logic none none,
      parse_comparisons (by decide) hne hfield hword orLogic none none, ?_⟩
    rw [hkept]
    exact holds_isIn_eq hsome hcanonical rfl rfl rfl
  · refine ⟨_, _, parse_listText rfl hne hfield.solid hsome hlistable logic none none,
      parse_comparisons (by decide) hne hfield hword andLogic none none, ?_⟩
    rw [hkept]
    exact holds_notIn_eq hsome hcanonical rfl rfl (by simp [isAny, andLogic, orLogic])

/-- A word and a number, both shown as they are written. -/
theorem holds_list_of_states :
    (∃ listed compared,
        parse .standard "state in (running,4)".toList = .ok listed ∧
        parse .standard "state=running state=4".toList orLogic = .ok compared ∧
        ∀ record, listed.holds record = compared.holds record) ∧
      ∃ listed compared,
        parse .standard "state not in (running,4)".toList = .ok listed ∧
        parse .standard "state!=running state!=4".toList andLogic = .ok compared ∧
        ∀ record, listed.holds record = compared.holds record := by
  have hfield : Word "state".toList := ⟨⟨by decide, by decide, by decide +kernel⟩, by decide⟩
  have hword : Word "running".toList := ⟨⟨by decide, by decide, by decide +kernel⟩, by decide⟩
  have hnumber : Word "4".toList := ⟨⟨by decide, by decide, by decide +kernel⟩, by decide⟩
  have hwords : ∀ v ∈ ["running".toList, "4".toList], Word v ∧ ',' ∉ v := by
    simp only [List.forall_mem_cons]
    exact ⟨⟨hword, by decide⟩, ⟨hnumber, by decide⟩, nofun⟩
  have hcanonical : ∀ v ∈ ["running".toList, "4".toList],
      (Value.ofScalar (Scalar.read v)).display = .ok v := by
    decide +kernel
  exact holds_list_eq_comparisons .standard (List.cons_ne_nil _ _) hfield (List.cons_ne_nil _ _)
    hwords hcanonical andLogic

end Filter

end RecordFilter
