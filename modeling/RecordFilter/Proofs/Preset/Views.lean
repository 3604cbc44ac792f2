import RecordFilter.Preset.Validation
import RecordFilter.Proofs.Outcome

/-!
Views: where a preset is listed, and which preset a name finds there.

A view lists its own presets and the global ones, each as often as it is there. The global view lists
the global ones alone; a preset that belongs to it is global, unless its data names that view and
makes it none. To look for a name in the global view is to look for it among all presets.
-/

namespace RecordFilter

theorem Json.lookup_put_self (name : Text) (value : Value) (entries : List (Text × Value)) :
    (put name value entries).lookup name = some value := by
  induction entries with
  | nil => exact List.lookup_cons_self
  | cons entry entries ih =>
    rw [put]
    split
    · exact List.lookup_cons_self
    · rename_i hne
      rw [List.lookup_cons, beq_eq_false_iff_ne.mpr (Ne.symm hne)]
      exact ih

namespace Preset

variable {p : Preset} {presets : List Preset} {view : Text}

variable {entries : List (Text × Value)}

/-- The data asks for the global view by its name, and does not make the preset global. -/
def NamesGlobalView (entries : List (Text × Value)) : Prop :=
  entries.lookup "view_type".toList = some (.text globalView) ∧ globalPart entries = .ok false

/-- The parts of a preset are those of its data, or of its data made global. -/
theorem parts_of_ofEntries (hp : ofEntries entries = .ok p) :
    let shown := if hasView entries then entries else withGlobalView entries
    textPart shown "view_type" (some globalView) = .ok p.view ∧
      globalPart shown = .ok p.isGlobal := by
  intro shown
  rw [ofEntries] at hp
  split at hp
  · rename_i hview _ hglobal
    rw [← Except.ok.inj hp]
    exact ⟨hview, hglobal⟩
  · cases hp

theorem eq_text_of_textPart {name : String} {default : Option Text} {value : Value} {t : Text}
    (hlookup : entries.lookup name.toList = some value)
    (hpart : textPart entries name default = .ok t) : value = .text t := by
  simp only [textPart, hlookup] at hpart
  cases value with
  | text u => exact congrArg Value.text (Except.ok.inj hpart)
  | _ => cases hpart

/-- A preset is in the global view without being global only if its data names that view. Data
    without a view, or with an empty one, makes a preset global. -/
theorem isGlobal_or_view_ne_of_ofEntries (hp : ofEntries entries = .ok p)
    (hnames : ¬ NamesGlobalView entries) : p.isGlobal ∨ p.view ≠ globalView := by
  obtain ⟨hview, hglobal⟩ := parts_of_ofEntries hp
  by_cases hshown : hasView entries
  · rw [if_pos hshown] at hview hglobal
    refine or_iff_not_imp_left.mpr fun hnot hall => hnames ⟨?_, ?_⟩
    · rw [hasView, Option.any_eq_true] at hshown
      obtain ⟨value, hlookup, -⟩ := hshown
      rw [hlookup, eq_text_of_textPart hlookup hview, hall]
    · rw [hglobal, eq_false_of_ne_true hnot]
  · rw [if_neg hshown, globalPart, withGlobalView, Json.lookup_put_self] at hglobal
    exact Or.inl (Except.ok.inj hglobal).symm

/-- A view has a preset as often as the list has it, if it is global or belongs to the view, which
    then is not the global one. -/
theorem count_inView (p : Preset) (presets : List Preset) (view : Text) :
    (inView view presets).count p =
      if p.isGlobal ∨ view ≠ globalView ∧ p.view = view then presets.count p else 0 := by
  have hfilter (test : Preset → Bool) :
      (presets.filter test).count p = if test p then presets.count p else 0 := by
    split
    · exact List.count_filter ‹_›
    · rw [List.count_eq_zero, List.mem_filter]
      exact fun hmem => absurd hmem.2 ‹_›
  rw [inView]
  by_cases hview : view = globalView
  · simp [hview, hfilter]
  · rw [if_neg hview, List.count_append, hfilter, hfilter]
    by_cases hglobal : p.isGlobal <;> simp [hglobal, hview]

theorem mem_inView_iff :
    p ∈ inView view presets ↔ p ∈ presets ∧ (p.isGlobal ∨ view ≠ globalView ∧ p.view = view) := by
  rw [← List.count_pos_iff, count_inView]
  split <;> simp [*]

/-- A preset is the first of its name among some presets. -/
def IsFirstNamed (name : Text) (presets : List Preset) (q : Preset) : Prop :=
  Text.lower q.name = Text.lower name ∧ ∃ before after, presets = before ++ q :: after ∧
    ∀ other ∈ before, Text.lower other.name ≠ Text.lower name

theorem IsFirstNamed.mem {name : Text} {q : Preset} (hq : IsFirstNamed name presets q) :
    q ∈ presets := by
  obtain ⟨-, before, after, rfl, -⟩ := hq
  exact List.mem_append_right _ List.mem_cons_self

/-- What a name finds is the first preset of that name in the view, or in the whole list if the view
    is the global one. -/
theorem find?_eq_some_iff {name : Text} {q : Preset} :
    find? name view presets = some q ↔
      IsFirstNamed name (if view = globalView then presets else inView view presets) q := by
  rw [find?, List.find?_eq_some_iff_append, IsFirstNamed]
  simp only [decide_eq_true_eq, Bool.not_eq_true', decide_eq_false_iff_not, ne_eq]

/-- The name of a preset finds a preset in its view. -/
theorem exists_find? (hp : p ∈ presets) : ∃ q, find? p.name p.view presets = some q := by
  have hmem : p ∈ if p.view = globalView then presets else inView p.view presets := by
    split
    · exact hp
    · rename_i hview
      exact mem_inView_iff.mpr ⟨hp, Or.inr ⟨hview, rfl⟩⟩
  rw [← Option.isSome_iff_exists, find?, List.find?_isSome]
  exact ⟨p, hmem, decide_eq_true rfl⟩

/-- Of the presets that some data holds, each is listed in its view as often as it is there, unless
    its data names the global view, and each global one is so listed in every view. The name of each
    finds a preset of that name, in any letter case, that is listed in the view. In the global view
    the whole list is searched, so there the first preset of the name is found, which is listed if
    it is global. -/
theorem count_inView_and_find?_of_data {values : List Value}
    (hread : values.mapM ofValue = .ok presets) (hdata : .dict entries ∈ values)
    (hp : ofEntries entries = .ok p) :
    (¬ NamesGlobalView entries → (inView p.view presets).count p = presets.count p) ∧
      (p.isGlobal → ∀ view, (inView view presets).count p = presets.count p) ∧
      ∃ q, find? p.name p.view presets = some q ∧ Text.lower q.name = Text.lower p.name ∧
        (p.view ≠ globalView → q ∈ inView p.view presets) ∧
        (p.view = globalView →
          IsFirstNamed p.name presets q ∧ (q.isGlobal → q ∈ inView p.view presets)) := by
  have hmem : p ∈ presets := by
    have hrow : List.Forall₂ (fun q value => ofValue value = .ok q) presets values :=
      (mapM_eq_ok_iff.mp hread).flip
    obtain ⟨q, hq, hsame⟩ := exists_mem_of_forall₂ hrow _ hdata
    rwa [Except.ok.inj (hp.symm.trans hsame)]
  refine ⟨fun hnames => ?_, fun hglobal view => ?_, ?_⟩
  · rw [count_inView, if_pos]
    exact (isGlobal_or_view_ne_of_ofEntries hp hnames).imp_right fun hview => ⟨hview, rfl⟩
  · rw [count_inView, if_pos (Or.inl hglobal)]
  · obtain ⟨q, hfind⟩ := exists_find? hmem
    have hfirst := find?_eq_some_iff.mp hfind
    refine ⟨q, hfind, hfirst.1, fun hview => ?_, fun hview => ?_⟩
    · rw [if_neg hview] at hfirst
      exact hfirst.mem
    · rw [if_pos hview] at hfirst
      exact ⟨hfirst, fun hglobal => mem_inView_iff.mpr ⟨hfirst.mem, Or.inl hglobal⟩⟩

/-- A preset of jobs that is there twice, and one whose data leaves the view empty. -/
theorem count_inView_and_find?_of_busy :
    let own : Preset := ⟨"Busy".toList, [], "jobs".toList, "state=running".toList, false⟩
    let shared : Preset := ⟨"busy".toList, [], globalView, "cpus>0".toList, true⟩
    let data (name view filter : String) : List (Text × Value) :=
      [("name".toList, .text name.toList), ("view_type".toList, .text view.toList),
        ("filter_str".toList, .text filter.toList)]
    let values : List Value :=
      [.dict (data "Busy" "jobs" "state=running"), .dict (data "Busy" "jobs" "state=running"),
        .dict (data "busy" "" "cpus>0")]
    let presets := [own, own, shared]
    values.mapM ofValue = .ok presets ∧ ¬ NamesGlobalView (data "Busy" "jobs" "state=running") ∧
      (inView own.view presets).count own = 2 ∧ (∀ view, (inView view presets).count shared = 1) ∧
      (∃ q, find? own.name own.view presets = some q ∧ q ∈ inView own.view presets) ∧
      ∃ q, find? shared.name shared.view presets = some q ∧ IsFirstNamed shared.name presets q := by
  intro own shared data values presets
  have hread : values.mapM ofValue = .ok presets := rfl
  have hnames : ¬ NamesGlobalView (data "Busy" "jobs" "state=running") := by
    rintro ⟨hview, -⟩
    have hsame : "jobs".toList = globalView := Value.text.inj (Option.some.inj hview)
    exact absurd hsame (by decide)
  have hown : ofEntries (data "Busy" "jobs" "state=running") = .ok own := rfl
  have hshared : ofEntries (data "busy" "" "cpus>0") = .ok shared := rfl
  obtain ⟨hcount, -, q, hq, -, hlisted, -⟩ :=
    count_inView_and_find?_of_data hread List.mem_cons_self hown
  obtain ⟨-, hglobal, r, hr, -, -, hfirst⟩ :=
    count_inView_and_find?_of_data hread (by simp [values]) hshared
  exact ⟨hread, hnames, hcount hnames, hglobal rfl, ⟨q, hq, hlisted (by decide)⟩,
    r, hr, (hfirst rfl).1⟩

/-- In the global view a global preset's name may find a preset of another view, which is not listed
    there. -/
theorem find?_not_mem_inView :
    let own : Preset := ⟨"busy".toList, [], "jobs".toList, "state=running".toList, false⟩
    let shared : Preset := ⟨"Busy".toList, [], globalView, "cpus>0".toList, true⟩
    let values : List Value :=
      [.dict [("name".toList, .text "busy".toList), ("filter_str".toList, .text "state=running".toList),
          ("view_type".toList, .text "jobs".toList)],
        .dict [("name".toList, .text "Busy".toList), ("filter_str".toList, .text "cpus>0".toList)]]
    values.mapM ofValue = .ok [own, shared] ∧
      find? shared.name shared.view [own, shared] = some own ∧
      own ∉ inView shared.view [own, shared] := by
  exact ⟨rfl, by decide +kernel, by decide +kernel⟩

end Preset

end RecordFilter
