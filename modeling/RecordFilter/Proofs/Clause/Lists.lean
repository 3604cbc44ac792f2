import RecordFilter.Proofs.Clause.Composition
import RecordFilter.Proofs.Clause.Reading

/-!
Lists in parentheses, and which of them are read back.

All parentheses at the two ends of a list are taken off before it is taken apart. So its first item
loses the parentheses that it begins with and its last one those that it ends with, and the others
stay as they are.
-/

namespace RecordFilter

/-- The condition that the text of a field is one of some words, or none of them. -/
def Expression.listing (field : Text) (op : Operator) (words : List Text) : Expression :=
  ⟨field, op, .tuple (words.map .text), .stringList⟩

theorem Expression.listing_inj {field : Text} {op : Operator} {words others : List Text}
    (hsame : listing field op words = listing field op others) : words = others := by
  have hvalues := Value.tuple.inj (Expression.mk.inj hsame).2.2.1
  exact List.map_injective_iff.mpr (fun _ _ h => Value.text.inj h) hvalues

theorem Value.texts?_map_text (items : List Text) :
    (tuple (items.map .text)).texts? = some items := by
  induction items with
  | nil => rfl
  | cons item items ih =>
    simp only [texts?] at ih ⊢
    rw [List.map_cons, List.mapM_cons, ih]
    rfl

namespace Clause

/-- A text without blanks and without the two low lines that a mark begins with. -/
structure Solid (t : Text) : Prop where
  not_isBlank : ∀ c ∈ t, ¬ Text.isBlank c
  unmarked : ¬ ['_', '_'] <:+: t

/-- A solid text without a comma, so that it can stand in a list. -/
structure Listable (t : Text) : Prop extends Solid t where
  comma_not_mem : ',' ∉ t

theorem Solid.space_not_mem {t : Text} (ht : Solid t) : ' ' ∉ t :=
  fun hmem => ht.not_isBlank ' ' hmem (by decide)

theorem Solid.trim_eq {t : Text} (ht : Solid t) : Text.trim t = t :=
  Text.trim_eq_self_of_not_isBlank ht.not_isBlank

theorem Listable.of_isInfix {t piece : Text} (ht : Listable t) (hpiece : piece <:+: t) :
    Listable piece :=
  { not_isBlank := fun c hc => ht.not_isBlank c (hpiece.subset hc)
    unmarked := fun hoccurs => ht.unmarked (hoccurs.trans hpiece)
    comma_not_mem := fun hmem => ht.comma_not_mem (hpiece.subset hmem) }

/-- The list of the items, in parentheses. -/
def listText (items : List Text) : Text :=
  '(' :: Text.join [','] items ++ [')']

variable {items : List Text}

theorem solid_listText (hitems : ∀ item ∈ items, Listable item) : Solid (listText items) := by
  constructor
  · intro c hc
    simp only [listText, List.mem_append, List.mem_cons, List.not_mem_nil, or_false] at hc
    rcases hc with (rfl | hc) | rfl
    · decide
    · rcases Text.mem_join hc with hcomma | ⟨item, hitem, hmem⟩
      · rw [List.mem_singleton.mp hcomma]
        decide
      · exact (hitems item hitem).not_isBlank c hmem
    · decide
  · intro hoccurs
    have hsplit : listText items = [] ++ '(' :: (Text.join [','] items ++ ')' :: []) := rfl
    rw [hsplit, Text.isInfix_append_cons_iff (by decide),
      Text.isInfix_append_cons_iff (by decide)] at hoccurs
    rcases hoccurs with hoccurs | hoccurs | hoccurs
    · exact absurd (List.infix_nil.mp hoccurs) (by decide)
    · obtain ⟨item, hitem, hin⟩ :=
        Text.exists_isInfix_of_isInfix_join (by decide) (by decide) hoccurs
      exact (hitems item hitem).unmarked hin
    · exact absurd (List.infix_nil.mp hoccurs) (by decide)

/-- The items without the parentheses that the first of them begins with and the last one ends
    with. -/
def withoutOuter (items : List Text) : List Text :=
  (items.modifyHead (·.dropWhile isParenthesis)).modifyLast (Text.dropEnd isParenthesis)

theorem withoutOuter_singleton (item : Text) :
    withoutOuter [item] = [Text.trimBy isParenthesis item] :=
  rfl

theorem withoutOuter_cons_append (first last : Text) (between : List Text) :
    withoutOuter (first :: (between ++ [last])) =
      first.dropWhile isParenthesis :: (between ++ [Text.dropEnd isParenthesis last]) := by
  rw [withoutOuter, List.modifyHead_cons, ← List.cons_append, List.modifyLast_concat,
    List.cons_append]

/-- A list is empty, or has one item, or has a first and a last one. -/
theorem items_cases (items : List Text) : items = [] ∨ (∃ item, items = [item]) ∨
    ∃ first between last, items = first :: (between ++ [last]) := by
  cases items with
  | nil => exact Or.inl rfl
  | cons first items =>
    rcases List.eq_nil_or_concat items with rfl | ⟨between, last, rfl⟩
    · exact Or.inr (Or.inl ⟨first, rfl⟩)
    · exact Or.inr (Or.inr ⟨first, between, last, by rw [List.concat_eq_append]⟩)

theorem withoutOuter_eq_self_iff :
    withoutOuter items = items ↔
      (∀ first ∈ items.head?, ∀ c ∈ first.head?, ¬ isParenthesis c) ∧
        ∀ last ∈ items.getLast?, ∀ c ∈ last.getLast?, ¬ isParenthesis c := by
  rcases items_cases items with rfl | ⟨item, rfl⟩ | ⟨first, between, last, rfl⟩
  · simp [withoutOuter, List.modifyLast, List.modifyLast.go]
  · rw [withoutOuter_singleton, List.cons_eq_cons, Text.trimBy_eq_self_iff]
    simp
  · have hlast : (first :: (between ++ [last])).getLast? = some last :=
      List.getLast?_concat (l := first :: between)
    rw [withoutOuter_cons_append, List.cons_eq_cons, List.append_cancel_left_eq, List.cons_eq_cons,
      Text.dropWhile_eq_self_iff, Text.dropEnd_eq_self_iff]
    simp [hlast]

theorem withoutOuter_ne_nil (hne : items ≠ []) : withoutOuter items ≠ [] := by
  rcases items_cases items with rfl | ⟨item, rfl⟩ | ⟨first, between, last, rfl⟩
  · exact absurd rfl hne
  · exact List.cons_ne_nil _ _
  · rw [withoutOuter_cons_append]
    exact List.cons_ne_nil _ _

/-- What is left of an item is within the item. -/
theorem exists_isInfix_of_mem_withoutOuter {piece : Text} (hpiece : piece ∈ withoutOuter items) :
    ∃ item ∈ items, piece <:+: item := by
  rcases items_cases items with rfl | ⟨item, rfl⟩ | ⟨first, between, last, rfl⟩
  · cases hpiece
  · rw [withoutOuter_singleton, List.mem_singleton] at hpiece
    refine ⟨item, List.mem_cons_self, hpiece ▸ ?_⟩
    exact (Text.isInfix_dropEnd _ _).trans (List.dropWhile_suffix isParenthesis).isInfix
  · rw [withoutOuter_cons_append, List.mem_cons, List.mem_append, List.mem_singleton] at hpiece
    rcases hpiece with rfl | hpiece | rfl
    · exact ⟨first, List.mem_cons_self, (List.dropWhile_suffix isParenthesis).isInfix⟩
    · exact ⟨piece, by simp [hpiece], List.infix_refl piece⟩
    · exact ⟨last, by simp, Text.isInfix_dropEnd isParenthesis last⟩

theorem listable_of_mem_withoutOuter (hitems : ∀ item ∈ items, Listable item) :
    ∀ piece ∈ withoutOuter items, Listable piece := by
  intro piece hpiece
  obtain ⟨item, hitem, hinfix⟩ := exists_isInfix_of_mem_withoutOuter hpiece
  exact (hitems item hitem).of_isInfix hinfix

theorem listItems_listText (hne : items ≠ []) (hitems : ∀ item ∈ items, Listable item) :
    listItems (listText items) = withoutOuter items := by
  have hpieces := listable_of_mem_withoutOuter hitems
  have hparentheses : Text.trimBy isParenthesis (listText items) =
      Text.join [','] (withoutOuter items) := by
    -- A comma is no parenthesis, so what is taken off stays within the first and the last item.
    rw [listText, withoutOuter, ← Text.trimBy_join (by decide)]
    exact Text.trimBy_append_append_of_forall (a := ['(']) (by decide) (by decide) _
  have htrimmed : (withoutOuter items).map Text.trim = (withoutOuter items).map id :=
    List.map_congr_left fun piece hpiece => (hpieces piece hpiece).trim_eq
  rw [listItems, hparentheses, Text.splitOn_join (withoutOuter_ne_nil hne)
    fun piece hpiece => (hpieces piece hpiece).comma_not_mem, htrimmed, List.map_id]

variable {aliases : AliasTable} {op : Operator} {field : Text}

/-- A clause of a field and a list. -/
theorem read_listText (hop : op.takesList) (hne : field ≠ []) (hfield : Solid field)
    (hsome : items ≠ []) (hitems : ∀ item ∈ items, Listable item) :
    read aliases (field ++ (op.token ++ listText items)) =
      .ok (.listing (aliases.canonical field) op (withoutOuter items)) := by
  have hlist := solid_listText hitems
  obtain ⟨c, hc⟩ := List.exists_mem_of_ne_nil field hne
  have hblank : ∃ c ∈ field, ¬ Text.isBlank c := ⟨c, hc, hfield.not_isBlank c hc⟩
  have hfieldEmpty : field.isEmpty = false := List.isEmpty_eq_false_iff.mpr hne
  have hlistEmpty : (listText items).isEmpty = false := rfl
  rw [read_token hop hfield.space_not_mem hblank hlist.space_not_mem rfl, readList,
    hfield.trim_eq, hlist.trim_eq, hfieldEmpty, hlistEmpty, listItems_listText hsome hitems]
  rfl

/-- A field and a list make one clause, whose only spaces are those around the operator. -/
theorem split_listText (hop : op.takesList) (hfield : Solid field)
    (hitems : ∀ item ∈ items, Listable item) :
    split (field ++ (op.token ++ listText items)) = [field ++ (op.token ++ listText items)] := by
  have hlist := solid_listText hitems
  have htight : Parts.Tight ⟨field, op, listText items⟩ :=
    ⟨hfield.space_not_mem, hlist.space_not_mem, fun _ => rfl⟩
  rw [← Parts.text_of_takesList hop, htight.split_text ⟨hfield.unmarked, hlist.unmarked⟩]

end Clause

open Clause

namespace Filter

variable {aliases : AliasTable} {op : Operator} {field : Text} {items : List Text}

theorem parse_listText (hop : op.takesList) (hne : field ≠ []) (hfield : Solid field)
    (hsome : items ≠ []) (hitems : ∀ item ∈ items, Listable item) (logic : Text)
    (name description : Option Text) :
    parse aliases (field ++ (op.token ++ listText items)) logic name description =
      .ok ⟨[.listing (aliases.canonical field) op (withoutOuter items)], logic, name,
        description⟩ := by
  rw [parse_eq_ok_iff_of_split_eq (split_listText hop hfield hitems)]
  exact ⟨_, read_listText hop hne hfield hsome hitems, rfl⟩

/-- A field and a list of items are read as one condition, on the items without the parentheses that
    the first of them begins with and the last one ends with, be they closed within the item or not.
    So the items are read back if and only if the first does not begin and the last does not end
    with a parenthesis. -/
theorem parse_list_items_iff (aliases : AliasTable) (hop : op.takesList) (hne : field ≠ [])
    (hfield : Solid field) (hsome : items ≠ []) (hitems : ∀ item ∈ items, Listable item)
    (logic : Text) (name description : Option Text) :
    let found (texts : List Text) : Filter :=
      ⟨[.listing (aliases.canonical field) op texts], logic, name, description⟩
    let parsed := parse aliases (field ++ (op.token ++ listText items)) logic name description
    parsed = .ok (found (withoutOuter items)) ∧
      (parsed = .ok (found items) ↔
        (∀ first ∈ items.head?, ∀ c ∈ first.head?, ¬ isParenthesis c) ∧
          ∀ last ∈ items.getLast?, ∀ c ∈ last.getLast?, ¬ isParenthesis c) := by
  intro found parsed
  have hparse : parsed = .ok (found (withoutOuter items)) :=
    parse_listText hop hne hfield hsome hitems logic name description
  refine ⟨hparse, ?_⟩
  rw [hparse, ← withoutOuter_eq_self_iff]
  constructor
  · intro hsame
    have hexpressions := (Filter.mk.inj (Except.ok.inj hsame)).1
    exact Expression.listing_inj (List.cons.inj hexpressions).1
  · intro hsame
    rw [hsame]

/-- A call at the end of a list loses its parenthesis, and one at the beginning does not. -/
theorem parse_list_items_of_calls :
    let found (op : Operator) (items : List Text) : Filter :=
      ⟨[.listing "User".toList op items], andLogic, none, none⟩
    parse .standard "user in (a,f(x))".toList andLogic =
        .ok (found .isIn ["a".toList, "f(x".toList]) ∧
      parse .standard "user not in (f(x),a)".toList andLogic =
        .ok (found .notIn ["f(x)".toList, "a".toList]) := by
  have hin : Operator.isIn.takesList := rfl
  have hnotIn : Operator.notIn.takesList := rfl
  have hfield : Solid "user".toList := ⟨by decide, by decide⟩
  have hname : Listable "a".toList := ⟨⟨by decide, by decide⟩, by decide⟩
  have hcall : Listable "f(x)".toList := ⟨⟨by decide, by decide⟩, by decide⟩
  constructor
  · have hitems : ∀ item ∈ ["a".toList, "f(x)".toList], Listable item := by
      simp only [List.forall_mem_cons]
      exact ⟨hname, hcall, nofun⟩
    exact (parse_list_items_iff .standard hin (by decide) hfield (by decide) hitems andLogic none
      none).1
  · have hitems : ∀ item ∈ ["f(x)".toList, "a".toList], Listable item := by
      simp only [List.forall_mem_cons]
      exact ⟨hcall, hname, nofun⟩
    have hkept := (parse_list_items_iff .standard hnotIn (by decide) hfield (by decide) hitems
      andLogic none none).2
    refine hkept.mpr ⟨?_, ?_⟩ <;> rintro _ ⟨⟩ _ ⟨⟩ <;> decide

end Filter

end RecordFilter
