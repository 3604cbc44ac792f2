import RecordFilter.Proofs.Clause.Comparisons
import RecordFilter.Proofs.Clause.Keys
import RecordFilter.Proofs.Clause.Lists
import RecordFilter.Proofs.Quantity.Overlaps
import RecordFilter.Proofs.Value.Display

/-!
Expressions that can be printed: those whose text is read as the same expression again, also among
the texts of others. The text of some others is at least read as a condition with the same operator
(`Expression.Legible`).
-/

namespace RecordFilter

namespace Clause

/-- A bare text without a comma, so that it can be an item of a list. -/
structure Item (t : Text) : Prop extends Bare t where
  comma_not_mem : ',' ∉ t

theorem Item.listable {t : Text} (ht : Item t) : Listable t :=
  ⟨ht.solid, ht.comma_not_mem⟩

/-- The characters of numbers and of clock forms make a word. -/
theorem word_of_forall {t : Text}
    (ht : ∀ c ∈ t, Text.isPlainDigit c ∨ c = ':' ∨ c = '-') : Word t := by
  have hnot : ∀ d, ¬ Text.isPlainDigit d → d ≠ ':' → d ≠ '-' → d ∉ t := by
    intro d hdigit hcolon hhyphen hmem
    rcases ht d hmem with h | h | h
    · exact hdigit h
    · exact hcolon h
    · exact hhyphen h
  refine ⟨⟨fun c hc => Text.not_isBlank_of_clock (ht c hc), ?_, ?_⟩, ?_⟩
  · intro c hc
    refine Cursor.isPlain_iff.mpr ⟨?_, ?_, ?_, ?_, ?_⟩ <;> rintro rfl <;>
      exact hnot _ (by decide) (by decide) (by decide) hc
  · intro hoccurs
    exact hnot '_' (by decide) (by decide) (by decide) (hoccurs.subset List.mem_cons_self)
  · intro c hc hsign
    simp only [Operator.isSign, Bool.or_eq_true, decide_eq_true_eq] at hsign
    rcases hsign with (((rfl | rfl) | rfl) | rfl) | rfl <;>
      exact hnot _ (by decide) (by decide) (by decide) hc

theorem word_ofInt (i : Int) : Word (Text.ofInt i) := by
  apply word_of_forall
  intro c hc
  exact (Text.isPlainDigit_or_eq_of_mem_ofInt hc).imp_right Or.inr

theorem word_boolean (b : Bool) : Word (if b then "true".toList else "false".toList) := by
  cases b <;> exact ⟨⟨by decide, by decide, by decide⟩, by decide⟩

end Clause

open Clause

/-- A value that its text is read as again: an integer of no more digits than are converted, a truth
    value, whole seconds in clock form, or a word that is no quantity. -/
inductive PrintableScalar : Value → Kind → Prop
  | integer {i : Int} (hi : i.natAbs < 10 ^ digitLimit) : PrintableScalar (.integer i) .integer
  | boolean (b : Bool) : PrintableScalar (.boolean b) .boolean
  | clusterDuration {d : Duration} (hd : d.Whole) : PrintableScalar (.duration d) .clusterDuration
  | string {t : Text} (ht : Word t) (hkind : (Scalar.read t).kind = .string) :
      PrintableScalar (.text t) .string

/-- The value of a list operator that its text is read as again. -/
inductive PrintableList : Value → Kind → Prop
  | texts (items : List Text) (hne : items ≠ []) (hitems : ∀ item ∈ items, Item item) :
      PrintableList (.tuple (items.map .text)) .stringList

/-- An expression that its text is read as again: the field is a record key that stands for itself,
    and the value is one for the operator. -/
structure Expression.Printable (e : Expression) : Prop where
  field_ne_nil : e.field ≠ []
  field_canonical : AliasTable.standard.canonical e.field = e.field
  field_word : Word e.field
  value :
    e.operator ∈ Operator.symbolic ∧ PrintableScalar e.value e.kind ∨
      e.operator.takesList ∧ PrintableList e.value e.kind

/-- A printed value is a word, and the value is read from it. -/
theorem PrintableScalar.exists_display {v : Value} {kind : Kind} (hv : PrintableScalar v kind) :
    ∃ shown, Word shown ∧ v.display = .ok shown ∧
      Value.ofScalar (Scalar.read shown) = v ∧ (Scalar.read shown).kind = kind := by
  cases hv with
  | @integer i hi =>
    have hread := Scalar.read_ofInt hi
    refine ⟨Text.ofInt i, word_ofInt i, integerText_of_lt hi, ?_, ?_⟩ <;> rw [hread] <;> rfl
  | boolean b =>
    have hread : Scalar.read (if b then "true".toList else "false".toList) = .boolean b := by
      cases b <;> rfl
    refine ⟨_, word_boolean b, rfl, ?_, ?_⟩ <;> rw [hread] <;> rfl
  | @clusterDuration d hd =>
    have hread := Scalar.read_text hd
    refine ⟨d.text, word_of_forall (Duration.clocklike_text hd).characters, rfl, ?_, ?_⟩ <;>
      rw [hread] <;> rfl
  | @string t ht hkind =>
    have hread := Scalar.read_eq_string_of_kind hkind
    exact ⟨t, ht, rfl, by rw [hread]; rfl, hkind⟩

/-- The text of a condition on a single value. -/
theorem Expression.text_of_display {e : Expression} {shown : Text}
    (hv : ∀ items, e.value ≠ .tuple items) (hdisplay : e.value.display = .ok shown) :
    e.text = .ok (e.field ++ (e.operator.text ++ shown)) := by
  obtain ⟨field, op, value, kind⟩ := e
  cases value with
  | tuple items => exact absurd rfl (hv items)
  | _ =>
    dsimp only at hdisplay
    simp only [Expression.text, hdisplay, List.append_assoc]

/-- An expression that its text is read as a condition again: the field is the standard key of some
    name, and the value is printed as a word or a list. -/
structure Expression.Legible (e : Expression) : Prop where
  field_ne_nil : e.field ≠ []
  field_key : ∃ name, e.field = AliasTable.standard.canonical name
  field_word : Word e.field
  value :
    (e.operator ∈ Operator.symbolic ∧ (∀ items, e.value ≠ .tuple items) ∧
        ∃ shown, Word shown ∧ e.value.display = .ok shown) ∨
      e.operator.takesList ∧ PrintableList e.value e.kind

/-- What the text of an expression is read as: the field is looked up like a name, and a single value
    is read from what it is printed as. -/
def Expression.reread (e : Expression) : Expression :=
  match e.value with
  | .tuple _ => { e with field := AliasTable.standard.canonical e.field }
  | value =>
    match value.display with
    | .error _ => { e with field := AliasTable.standard.canonical e.field }
    | .ok shown => .comparing (AliasTable.standard.canonical e.field) e.operator shown

theorem Expression.reread_of_display {e : Expression} {shown : Text}
    (hv : ∀ items, e.value ≠ .tuple items) (hdisplay : e.value.display = .ok shown) :
    e.reread = .comparing (AliasTable.standard.canonical e.field) e.operator shown := by
  obtain ⟨field, op, value, kind⟩ := e
  dsimp only at hdisplay
  cases value with
  | tuple items => exact absurd rfl (hv items)
  | _ => simp only [reread, hdisplay]

@[simp] theorem Expression.reread_field (e : Expression) :
    e.reread.field = AliasTable.standard.canonical e.field := by
  unfold reread
  split
  · rfl
  · split <;> rfl

theorem PrintableScalar.ne_tuple {v : Value} {kind : Kind} (hv : PrintableScalar v kind) :
    ∀ items, v ≠ .tuple items := by
  rintro items rfl
  cases hv

theorem Expression.Printable.legible {e : Expression} (he : e.Printable) : e.Legible := by
  refine ⟨he.field_ne_nil, ⟨e.field, he.field_canonical.symm⟩, he.field_word,
    he.value.imp_left fun ⟨hop, hv⟩ => ⟨hop, hv.ne_tuple, ?_⟩⟩
  obtain ⟨shown, hshown, hdisplay, -⟩ := hv.exists_display
  exact ⟨shown, hshown, hdisplay⟩

/-- A printable expression is read as itself. -/
theorem Expression.Printable.reread_eq {e : Expression} (he : e.Printable) : e.reread = e := by
  rcases he.value with ⟨-, hv⟩ | ⟨-, hv⟩
  · obtain ⟨shown, -, hdisplay, hvalue, hkind⟩ := hv.exists_display
    rw [reread_of_display hv.ne_tuple hdisplay, comparing, he.field_canonical, hvalue, hkind]
  · obtain ⟨field, op, value, kind⟩ := e
    cases hv
    simp only [reread, he.field_canonical]

namespace Clause.Parts

/-- The clause is the text of the expression and is read as one alone, and takes nothing from the
    clauses around it. -/
structure Denotes (p : Parts) (e : Expression) : Prop where
  text : e.text = .ok p.text
  read : read .standard p.text = .ok e.reread
  separate : p.Separate
  unmarked : p.Unmarked
  isOpen : (Cursor.scan {} p.marked).isOpen

private theorem isOpen_scan_marked {p : Parts} (hbefore : ∀ c ∈ p.before, Cursor.isPlain c)
    (hafter : (Cursor.scan {} p.after).isOpen) : (Cursor.scan {} p.marked).isOpen := by
  have hmark : ∀ c ∈ p.operator.mark, Cursor.isPlain c := by
    cases p.operator <;> decide
  have hfirst : Cursor.scan {} p.before = {} := Cursor.scan_of_isPlain hbefore
  have hsecond : Cursor.scan {} p.operator.mark = {} := Cursor.scan_of_isPlain hmark
  rwa [marked, Cursor.scan_append, Cursor.scan_append, hfirst, hsecond]

private theorem separate_of_legible {e : Expression} {after : Text} (he : e.Legible)
    (hspace : ' ' ∉ after) (hlist : e.operator.takesList → after.head? = some '(') :
    Separate ⟨e.field, e.operator, after⟩ := by
  have hfirst : ∀ c ∈ e.field.head?, ¬ c.isLower := by
    obtain ⟨name, hname⟩ := he.field_key
    rw [hname]
    exact fun c => AliasTable.not_isLower_of_mem_head?
  refine ⟨he.field_ne_nil, he.field_word.space_not_mem, hspace, ?_, ?_, hlist⟩ <;> intro heq <;>
    rw [show e.field = _ from heq] at hfirst
  · exact hfirst 'i' rfl (by decide)
  · exact hfirst 'n' rfl (by decide)

theorem exists_denotes_of_scalar {e : Expression} {shown : Text} (he : e.Legible)
    (hop : e.operator ∈ Operator.symbolic) (hv : ∀ items, e.value ≠ .tuple items)
    (hshown : Word shown) (hdisplay : e.value.display = .ok shown) : ∃ p : Parts, p.Denotes e := by
  have hlist : ¬ e.operator.takesList :=
    (by decide : ∀ op ∈ Operator.symbolic, ¬ op.takesList) _ hop
  have htext : Parts.text ⟨e.field, e.operator, shown⟩ = e.field ++ (e.operator.text ++ shown) := by
    rw [text, Operator.written, if_neg hlist, List.append_assoc]
  refine ⟨⟨e.field, e.operator, shown⟩, ?_, ?_, ?_, ?_, ?_⟩
  · rw [htext, Expression.text_of_display hv hdisplay]
  · rw [htext, read_comparison hop he.field_ne_nil he.field_word hshown,
      Expression.reread_of_display hv hdisplay]
  · exact separate_of_legible he hshown.space_not_mem fun h => absurd h hlist
  · exact ⟨he.field_word.unmarked, hshown.unmarked⟩
  · apply isOpen_scan_marked he.field_word.isPlain
    have hscan : Cursor.scan {} shown = {} := Cursor.scan_of_isPlain hshown.isPlain
    rw [hscan]
    rfl

private theorem isOpen_listText {items : List Text} (hitems : ∀ item ∈ items, Item item) :
    (Cursor.scan {} (listText items)).isOpen := by
  have hinside : ∀ c ∈ Text.join [','] items, Cursor.isPlain c := by
    intro c hc
    rcases Text.mem_join hc with hcomma | ⟨item, hitem, hmem⟩
    · rw [List.mem_singleton.mp hcomma]
      decide
    · exact (hitems item hitem).isPlain c hmem
  have hleft : Cursor.next {} '(' = { depth := 1 } := rfl
  have hscan : Cursor.scan { depth := 1 } (Text.join [','] items) = { depth := 1 } :=
    Cursor.scan_of_isPlain hinside
  rw [listText, List.cons_append, Cursor.scan_cons, hleft, Cursor.scan_append, hscan]
  rfl

theorem exists_denotes_of_list {e : Expression} (he : e.Legible) (hop : e.operator.takesList)
    (hv : PrintableList e.value e.kind) : ∃ p : Parts, p.Denotes e := by
  obtain ⟨field, op, value, kind⟩ := e
  obtain ⟨items, hne, hitems⟩ := hv
  have hfield : Word field := he.field_word
  have hlistable : ∀ item ∈ items, Listable item := fun item hitem => (hitems item hitem).listable
  have hlist := solid_listText hlistable
  have htext := text_of_takesList hop field (listText items)
  refine ⟨⟨field, op, listText items⟩, ?_, ?_, ?_, ?_, ?_⟩
  · rw [htext, Expression.text]
    simp only [Value.texts?_map_text, listText, List.append_assoc, List.cons_append]
  · rw [htext, read_listText hop he.field_ne_nil hfield.solid hne
      hlistable, withoutOuter_of_bare fun item hitem => (hitems item hitem).toBare]
    rfl
  · exact separate_of_legible he hlist.space_not_mem fun _ => rfl
  · exact ⟨hfield.unmarked, hlist.unmarked⟩
  · exact isOpen_scan_marked hfield.isPlain (isOpen_listText hitems)

/-- The text of a legible expression is a clause of its own. -/
theorem exists_denotes {e : Expression} (he : e.Legible) : ∃ p : Parts, p.Denotes e := by
  rcases he.value with ⟨hop, hv, shown, hshown, hdisplay⟩ | ⟨hop, hv⟩
  · exact exists_denotes_of_scalar he hop hv hshown hdisplay
  · exact exists_denotes_of_list he hop hv

end Clause.Parts

end RecordFilter
