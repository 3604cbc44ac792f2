import RecordFilter.Proofs.Command.Reports
import RecordFilter.Proofs.Filter.Description
import RecordFilter.Proofs.Value.Kinds

/-!
The warnings of the command that shows the clauses of a filter: which there are, and when one says
that sizes or durations are compared as texts.

The warning looks at the kind of the clause's value. It is there whenever the value is not on the
scale of its field, and besides for the values of which the kind does not tell that they are.
-/

namespace RecordFilter

namespace Expression

variable {e : Expression}

theorem Parsed.exists_text (he : e.Parsed) : ∃ shown, e.text = .ok shown := by
  obtain ⟨aliases, clause, hread⟩ := he
  exact Clause.exists_text_of_read hread

/-- An order compares a field with what a text is read as, never with a list. -/
theorem Parsed.exists_eq_comparing (he : e.Parsed) (hop : e.operator.isOrdered) :
    ∃ t, e = .comparing e.field e.operator t := by
  obtain ⟨aliases, clause, hread⟩ := he
  rcases Clause.read_eq_ok_cases hread with
    ⟨-, op, before, after, hlist, hread⟩ | ⟨-, op, before, after, -, rfl⟩
  · rw [Clause.eq_of_readList_eq_ok hread] at hop
    have hnone : op.isOrdered = false := by cases op <;> first | rfl | cases hlist
    exact absurd (hnone.symm.trans hop) Bool.false_ne_true
  · exact ⟨_, rfl⟩

end Expression

namespace Field

/-- The names of sizes, of durations and of points in time are apart. -/
theorem not_isDuration_of_isMemory {field : Text} (hfield : isMemory field) :
    isDuration field = false ∧ isDate field = false := by
  have hnames : ∀ name ∈ memoryNames, durationNames.contains name = false ∧
      dateMarkers.any (Text.occursIn · name) = false := by
    decide
  exact hnames _ (List.contains_iff_mem.mp hfield)

theorem not_isMemory_of_isDuration {field : Text} (hfield : isDuration field) :
    isMemory field = false ∧ isDate field = false := by
  have hnames : ∀ name ∈ durationNames, memoryNames.contains name = false ∧
      dateMarkers.any (Text.occursIn · name) = false := by
    decide
  exact hnames _ (List.contains_iff_mem.mp hfield)

end Field

namespace Command

/-- The end of the warning that a clause compares the sizes in a field as texts. -/
def sizeTail (field : Text) : Text :=
  "' compares ".toList ++ field ++ " as text; use a size such as 4G.".toList

/-- The end of the warning that a clause compares the durations in a field as texts. -/
def durationTail (field : Text) : Text :=
  "' compares ".toList ++ field ++ " as text; use a duration such as 2:00:00 or 1h30m.".toList

/-- The end of the warning that a clause compares dates as texts. -/
def dateTail : Text :=
  "' compares dates as text; 'match --since' understands date ranges.".toList

/-- The warnings that a clause deserves, one on its field and one on its comparison. -/
def warningsOf (aliases : AliasTable) (e : Expression) : List Text :=
  (if !(aliases.entries.any fun (_, key) => key = e.field) then [unknownField e.field] else []) ++
    match e.text, orderWarning? e with
    | .ok shown, some tail => ['\'' :: shown ++ tail]
    | _, _ => []

variable {s : Surroundings} {aliases : AliasTable} {e : Expression} {shown tail : Text}

theorem mem_warningsOf_iff (htext : e.text = .ok shown) :
    '\'' :: shown ++ tail ∈ warningsOf aliases e ↔ orderWarning? e = some tail := by
  have hfield : '\'' :: shown ++ tail ≠ unknownField e.field := by
    intro heq
    have hfirst : some '\'' = some 'F' := congrArg List.head? heq
    exact absurd hfirst (by decide)
  have hunknown : '\'' :: shown ++ tail ∉
      if !(aliases.entries.any fun (_, key) => key = e.field) then [unknownField e.field]
      else [] := by
    split
    · exact fun hmem => hfield (List.mem_singleton.mp hmem)
    · exact List.not_mem_nil
  rw [warningsOf, List.mem_append, or_iff_right hunknown, htext]
  cases orderWarning? e with
  | none => simp
  | some other => simp [eq_comm]

theorem orderWarning?_of_isOrdered (hop : e.operator.isOrdered) :
    orderWarning? e =
      if Field.isMemory e.field && e.kind ≠ .integer && e.kind ≠ .memory then
        some (sizeTail e.field)
      else if Field.isDuration e.field && e.kind ≠ .clusterDuration && e.kind ≠ .duration then
        some (durationTail e.field)
      else if Field.isDate e.field then some dateTail else none := by
  rw [orderWarning?, hop]
  rfl

theorem orderWarning?_of_isMemory (hop : e.operator.isOrdered) (hfield : Field.isMemory e.field) :
    orderWarning? e =
      if e.kind ≠ .integer ∧ e.kind ≠ .memory then some (sizeTail e.field) else none := by
  obtain ⟨hduration, hdate⟩ := Field.not_isDuration_of_isMemory hfield
  simp [orderWarning?_of_isOrdered hop, hfield, hduration, hdate]

theorem orderWarning?_of_isDuration (hop : e.operator.isOrdered)
    (hfield : Field.isDuration e.field) :
    orderWarning? e = if e.kind ≠ .clusterDuration ∧ e.kind ≠ .duration
      then some (durationTail e.field) else none := by
  obtain ⟨hmemory, hdate⟩ := Field.not_isMemory_of_isDuration hfield
  simp [orderWarning?_of_isOrdered hop, hfield, hmemory, hdate]

/-- If what is warned of is off unless it is mistaken for that, then the warning is there for all
    that is off and for all that is mistaken. -/
private theorem warned_iff_off_or_mistaken {warned off mistaken : Prop}
    (hoff : off ↔ warned ∧ ¬ mistaken) (hmistaken : mistaken → warned) :
    (warned ↔ off ∨ mistaken) ∧ (mistaken → ¬ off) := by
  refine ⟨⟨fun hwarned => ?_, ?_⟩, fun h hnot => (hoff.mp hnot).2 h⟩
  · by_cases h : mistaken
    · exact Or.inr h
    · exact Or.inl (hoff.mpr ⟨hwarned, h⟩)
  · rintro (h | h)
    · exact (hoff.mp h).1
    · exact hmistaken h

/-- The warning on sizes is there whenever the value has no size, and for the numbers of which the
    kind does not tell that they have one. -/
theorem mem_warningsOf_sizeTail_iff (he : e.Parsed) (hop : e.operator.isOrdered)
    (hfield : Field.isMemory e.field) (htext : e.text = .ok shown) :
    ('\'' :: shown ++ sizeTail e.field ∈ warningsOf aliases e ↔
        e.value.byteCount? = none ∨ e.kind = .float ∧ e.value.isPlainNumber) ∧
      (e.kind = .float ∧ e.value.isPlainNumber → e.value.byteCount? ≠ none) := by
  obtain ⟨t, ht⟩ := he.exists_eq_comparing hop
  have hcount : e.value.byteCount? = none ↔ (e.kind ≠ .integer ∧ e.kind ≠ .memory) ∧
      ¬ (e.kind = .float ∧ e.value.isPlainNumber) := by
    rw [ht]
    exact Scalar.byteCount?_ofScalar_read_eq_none_iff t
  have hfloat : e.kind = .float ∧ e.value.isPlainNumber → e.kind ≠ .integer ∧ e.kind ≠ .memory := by
    rintro ⟨hkind, -⟩
    rw [hkind]
    decide
  rw [mem_warningsOf_iff htext, orderWarning?_of_isMemory hop hfield]
  simp only [Option.ite_none_right_eq_some, and_true]
  exact warned_iff_off_or_mistaken hcount hfloat

/-- The warning on durations is there whenever the value is none, and for the zeros of which the
    kind does not tell that they are. -/
theorem mem_warningsOf_durationTail_iff (he : e.Parsed) (hop : e.operator.isOrdered)
    (hfield : Field.isDuration e.field) (htext : e.text = .ok shown) :
    ('\'' :: shown ++ durationTail e.field ∈ warningsOf aliases e ↔
        e.value.duration? = .ok none ∨ e.value.IsZero) ∧
      (e.value.IsZero → e.value.duration? ≠ .ok none) := by
  obtain ⟨t, ht⟩ := he.exists_eq_comparing hop
  have hduration : e.value.duration? = .ok none ↔
      (e.kind ≠ .clusterDuration ∧ e.kind ≠ .duration) ∧ ¬ e.value.IsZero := by
    rw [ht]
    exact Scalar.duration?_ofScalar_read_eq_none_iff t
  have hzero : e.value.IsZero → e.kind ≠ .clusterDuration ∧ e.kind ≠ .duration := by
    rw [ht]
    exact Scalar.kind_ne_of_isZero
  rw [mem_warningsOf_iff htext, orderWarning?_of_isDuration hop hfield]
  simp only [Option.ite_none_right_eq_some, and_true]
  exact warned_iff_off_or_mistaken hduration hzero

theorem leaves_warnOf (he : e.Parsed) : (warnOf s aliases e).Leaves ⟨⟩ (warningsOf aliases e) := by
  obtain ⟨shown, htext⟩ := he.exists_text
  rw [warningsOf, htext]
  refine Task.Leaves.warn_if ?_
  cases orderWarning? e with
  | none => exact Task.leaves_pure _
  | some tail => exact (Task.leaves_ofExcept htext).bind_silent (Task.leaves_warn _)

variable {configPath : Option Text} {lines : List LogLine} {text : Text} {isAny : Bool}
  {f : Filter} {d : Value}

/-- The warnings of the clauses, one clause after the other, are all that the command leaves. -/
theorem leaves_parseTask (hsettings : Settings.load s.files configPath = .ok (aliases, lines))
    (hparse : Filter.parse aliases text (if isAny then Filter.orLogic else Filter.andLogic) = .ok f)
    (hdescribed : f.described = .ok d) :
    (parseTask s configPath text isAny).Leaves { data := .dict [("filter".toList, d)] }
      (f.expressions.flatMap (warningsOf aliases)) := by
  refine (leaves_readAliases hsettings).bind_silent ?_
  refine (leaves_readFilter hparse).bind_silent ?_
  rw [← List.append_nil (f.expressions.flatMap _)]
  refine (Task.leaves_forM fun e he => leaves_warnOf (Filter.parsed_of_parse hparse e he)).bind ?_
  exact (Task.leaves_ofExcept hdescribed).bind_silent (Task.leaves_pure _)

/-- The command for a filter that is read reports the warnings of its clauses, one after the other,
    and in JSON prints that report. A comparison by order is said to compare sizes or durations as
    texts if its value is not on the scale, and besides for numbers that are on it, but whose kind is
    not one of the scale: floating point numbers that are sizes, and zeros that are durations. -/
theorem warnings_of_parse_by_kind
    (hsettings : Settings.load s.files configPath = .ok (aliases, lines))
    (hparse : Filter.parse aliases text (if isAny then Filter.orLogic else Filter.andLogic) =
      .ok f) :
    (∃ outcome notes, ((parse text isAny).task s configPath).perform = (.ok outcome, notes) ∧
      let report := successReport "parse".toList configPath notes.warnings outcome
      report.warnings = f.expressions.flatMap (warningsOf aliases) ∧
        ∀ mode : Mode, mode.form = .json → settingsPath s mode = .ok configPath →
          ∃ p, (parse text isAny).run s mode = .ok p ∧ p.Tells report 0) ∧
    ∀ e ∈ f.expressions, e.operator.isOrdered → ∃ shown, e.text = .ok shown ∧
      (Field.isMemory e.field →
        ('\'' :: shown ++ sizeTail e.field ∈ warningsOf aliases e ↔
          e.value.byteCount? = none ∨ e.kind = .float ∧ e.value.isPlainNumber) ∧
        (e.kind = .float ∧ e.value.isPlainNumber → e.value.byteCount? ≠ none)) ∧
      (Field.isDuration e.field →
        ('\'' :: shown ++ durationTail e.field ∈ warningsOf aliases e ↔
          e.value.duration? = .ok none ∨ e.value.IsZero) ∧
        (e.value.IsZero → e.value.duration? ≠ .ok none)) := by
  constructor
  · obtain ⟨d, hd, hdata, hheight⟩ := Filter.exists_described_of_parse hparse
    rcases hperform : ((parse text isAny).task s configPath).perform with ⟨result, notes⟩
    obtain ⟨hresult, hwarnings⟩ := leaves_parseTask hsettings hparse hd {}
    obtain rfl : result = _ := (congrArg Prod.fst hperform).symm.trans hresult
    have hnotes : notes.warnings = f.expressions.flatMap (warningsOf aliases) :=
      (congrArg (Notes.warnings ∘ Prod.snd) hperform).symm.trans hwarnings
    have hreport : (successReport "parse".toList configPath notes.warnings
        { data := .dict [("filter".toList, d)] }).writeFault? = none := by
      refine writeFault?_successReport.mpr ⟨?_, ?_⟩
      · refine (Nat.succ_le_succ ?_).trans (by decide : 5 + 1 ≤ Report.heightLimit)
        exact Json.heightOfEntries_le_iff.mpr (List.forall_mem_singleton.mpr hheight)
      · refine Json.IsData.hasLongNumber_eq_false (.dict (List.nodup_singleton _) ?_)
        exact List.forall_mem_singleton.mpr hdata
    refine ⟨_, notes, rfl, hnotes, fun mode hform hpath => ?_⟩
    obtain ⟨p, hprinted, htells⟩ := exists_printed (s := s) hform hreport
    exact ⟨p, (runTask_eq hpath hperform).trans hprinted, htells⟩
  · intro e he hop
    have hparsed := Filter.parsed_of_parse hparse e he
    obtain ⟨shown, htext⟩ := hparsed.exists_text
    exact ⟨shown, htext, fun hfield => mem_warningsOf_sizeTail_iff hparsed hop hfield htext,
      fun hfield => mem_warningsOf_durationTail_iff hparsed hop hfield htext⟩

/-- The warnings of a number of bytes with a point and of a zero, and none of a size in its form. -/
theorem warnings_of_parse_of_number_and_zero :
    let s : Surroundings :=
      { now := ⟨0, by decide⟩, environment := [], homeOf := fun _ => none,
        files := fun _ => .missing, input := .empty, screen := 80, word := fun _ => [] }
    let size := Expression.comparing "Memory".toList .greater "1.5".toList
    let zero := Expression.comparing "TimeLimit".toList .greater "0".toList
    ∃ p report,
      (parse "memory>1.5 timelimit>0 memory>4G".toList false).run s { form := .json } = .ok p ∧
        p.Tells report 0 ∧
        report.warnings =
          ["'Memory>1.5' compares Memory as text; use a size such as 4G.",
            "'TimeLimit>0' compares TimeLimit as text; use a duration such as 2:00:00 or 1h30m."].map
            String.toList ∧
        size.value.byteCount? ≠ none ∧ zero.value.duration? ≠ .ok none := by
  intro s size zero
  let f : Filter :=
    { expressions := [size, zero, .comparing "Memory".toList .greater "4G".toList] }
  have hsettings : Settings.load s.files none = .ok (.standard, []) := rfl
  have hparse : Filter.parse .standard "memory>1.5 timelimit>0 memory>4G".toList
      (if false then Filter.orLogic else Filter.andLogic) = .ok f := rfl
  obtain ⟨⟨outcome, notes, -, hwarnings, hruns⟩, hclauses⟩ :=
    warnings_of_parse_by_kind hsettings hparse
  obtain ⟨p, hrun, htells⟩ := hruns { form := .json } rfl rfl
  obtain ⟨_, -, hsize, -⟩ := hclauses size List.mem_cons_self rfl
  obtain ⟨_, -, -, hzero⟩ := hclauses zero (List.mem_cons_of_mem _ List.mem_cons_self) rfl
  refine ⟨p, _, hrun, htells, hwarnings.trans ?_, ?_, ?_⟩
  · decide +kernel
  · exact (hsize (by decide)).2 (by decide +kernel)
  · exact (hzero (by decide)).2 rfl

end Command

end RecordFilter
