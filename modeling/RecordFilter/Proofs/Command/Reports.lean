import RecordFilter.Proofs.Command.Failures
import RecordFilter.Proofs.Json.RoundTrip

/-!
Reports in JSON: a run prints one line, and its exit code tells the result.

The report of a failure is written whenever the details of the failure are. So a command prints a
report unless the settings file cannot be told.
-/

namespace RecordFilter

theorem Json.anyLongNumber_texts (texts : List Text) :
    anyLongNumber (texts.map .text) = false :=
  (isData_texts texts).hasLongNumber_eq_false

theorem Json.hasLongNumber_ofText? (t : Option Text) : hasLongNumber (.ofText? t) = false :=
  (isData_ofText? t).hasLongNumber_eq_false

theorem Json.hasLongNumber_ofTexts? (texts : Option (List Text)) :
    hasLongNumber (.ofTexts? texts) = false := by
  cases texts with
  | none => rfl
  | some texts => exact anyLongNumber_texts texts

namespace Report

/-- The only numbers of a report that took no time are in its data and in the details of its
    error. -/
theorem hasLongNumber_described {r : Report} (htime : r.milliseconds = 0) :
    Json.hasLongNumber r.described =
      (Json.hasLongNumber r.data || Json.anyLongMember r.details) := by
  have hnumber : decide (writtenLimit ≤ r.milliseconds.natAbs) = false := by
    rw [htime, writtenLimit_eq]
    exact decide_eq_false (Nat.not_le.mpr (Nat.pow_pos (by decide)))
  have hrun : Json.hasLongNumber r.runPart = false := by
    simp only [runPart, Json.hasLongNumber, Json.anyLongMember, hnumber,
      Json.hasLongNumber_ofText?, Json.hasLongNumber_ofTexts?, Bool.or_false]
  have herror : ∀ e : ErrorInfo, Json.hasLongNumber e.described =
      Json.anyLongMember (e.details.getD []) := by
    intro e
    rw [ErrorInfo.described]
    cases e.details <;>
      simp [Json.hasLongNumber, Json.anyLongMember, Json.hasLongNumber_ofText?]
  simp only [described, Json.hasLongNumber, Json.anyLongMember, Json.anyLongNumber_texts, hrun,
    Bool.false_or, Bool.or_false]
  rw [details]
  cases r.error with
  | none => rfl
  | some e => exact congrArg (Json.hasLongNumber r.data || ·) (herror e)

/-- A report is written if its data and the details of its error are neither nested too deeply
    nor have too long an integer. -/
theorem writeFault?_eq_none_iff {r : Report} (htime : r.milliseconds = 0) :
    r.writeFault? = none ↔
      (Json.height r.data ≤ heightLimit ∧ Json.hasLongNumber r.data = false) ∧
        Json.heightOfEntries r.details ≤ heightLimit ∧ Json.anyLongMember r.details = false := by
  have hhigh : r.isTooHigh = false ↔ Json.height r.data ≤ heightLimit ∧
      Json.heightOfEntries r.details ≤ heightLimit := by
    simp [isTooHigh]
  have hlong : Json.hasLongNumber r.described = false ↔ Json.hasLongNumber r.data = false ∧
      Json.anyLongMember r.details = false := by
    rw [hasLongNumber_described htime, Bool.or_eq_false_iff]
  rw [and_and_and_comm, ← hhigh, ← hlong, writeFault?]
  cases r.isTooHigh <;> cases Json.hasLongNumber r.described <;> simp

theorem isData_described {r : Report} (htime : r.milliseconds = 0) (herror : r.error = none)
    (hdata : Json.IsData r.data) : Json.IsData r.described := by
  have hrun : Json.IsData r.runPart := by
    have hnames : (["durationMs", "configPath", "columns"].map String.toList).Nodup := by decide
    refine .dict hnames ?_
    simp only [List.forall_mem_cons, htime]
    refine ⟨.plain (.integer (Nat.pow_pos (by decide))), Json.isData_ofText? _, ?_, nofun⟩
    cases r.columns with
    | none => exact .plain .null
    | some columns => exact Json.isData_texts columns
  have hnames :
      (["ok", "command", "data", "warnings", "meta", "error"].map String.toList).Nodup := by decide
  refine .dict hnames ?_
  simp only [List.forall_mem_cons, herror]
  exact ⟨.plain (.boolean _), .text _, hdata, Json.isData_texts _, hrun, .plain .null, nofun⟩

theorem height_described_le {r : Report} (herror : r.error = none)
    (hdata : Json.height r.data ≤ heightLimit) : Json.height r.described ≤ Json.depthLimit := by
  have hone : 1 ≤ heightLimit := by decide
  have htexts : ∀ texts : List Text, Json.height (.list (texts.map .text)) ≤ heightLimit :=
    fun texts => (Json.height_texts_le texts).trans (by decide)
  have hrun : Json.height r.runPart ≤ heightLimit + 1 := by
    refine Nat.succ_le_succ (Json.heightOfEntries_le_iff.mpr ?_)
    simp only [List.forall_mem_cons]
    refine ⟨hone, ?_, ?_, nofun⟩
    · cases r.configPath <;> exact hone
    · cases r.columns with
      | none => exact hone
      | some columns => exact htexts columns
  have hlimit : heightLimit + 2 ≤ Json.depthLimit := by decide
  refine (Nat.succ_le_succ (Json.heightOfEntries_le_iff.mpr ?_)).trans hlimit
  simp only [List.forall_mem_cons, herror]
  exact ⟨Nat.le_succ_of_le hone, Nat.le_succ_of_le hone, Nat.le_succ_of_le hdata,
    Nat.le_succ_of_le (htexts r.warnings), hrun, Nat.le_succ_of_le hone, nofun⟩

theorem nulled_described {r : Report} (herror : r.error = none) :
    Json.nulled r.described = { r with data := Json.nulled r.data }.described := by
  have htexts : ∀ texts : List Text, Json.nulledAll (texts.map .text) = texts.map .text := by
    intro texts
    rw [Json.nulledAll_eq_map, List.map_map]
    rfl
  have hpath : Json.nulled (.ofText? r.configPath) = .ofText? r.configPath := by
    cases r.configPath <;> rfl
  have hcolumns : Json.nulled (.ofTexts? r.columns) = .ofTexts? r.columns := by
    cases r.columns with
    | none => rfl
    | some columns => exact congrArg Value.list (htexts columns)
  have hrun : Json.nulled r.runPart = r.runPart := by
    simp only [runPart, Json.nulled, Json.nulledEntries, hpath, hcolumns]
  simp only [described, Json.nulled, Json.nulledEntries, htexts, hrun, herror]
  rfl

/-- A report of a result is read back with nothing in the place of the numbers that have no form. -/
theorem read_line {r : Report} (htime : r.milliseconds = 0) (herror : r.error = none)
    (hdata : Json.IsData r.data) (hheight : Json.height r.data ≤ heightLimit) :
    Json.read r.line = .ok { r with data := Json.nulled r.data }.described := by
  rw [line, Json.read_write_line (isData_described htime herror hdata)
    (height_described_le herror hheight), nulled_described herror]

end Report

/-- The settings file that the environment names is in a home directory that is not known. -/
def Surroundings.LacksSettings (s : Surroundings) : Prop :=
  let raw := Text.trim ((s.environment.lookup Settings.pathVariable).getD [])
  raw ≠ [] ∧ Path.expandHome? (s.environment.lookup Settings.homeVariable) s.homeOf raw = none

/-- The run prints the report on one line and nothing else, and ends with the exit code. -/
structure Printed.Tells (p : Printed) (report : Report) (exit : Int) : Prop where
  exit_eq : p.exit = exit
  output_eq : p.output = Json.write report.described ++ ['\n']
  one_line : '\n' ∉ Json.write report.described

namespace Command

theorem writeFault?_failureReport {name : Text} {configPath : Option Text} {warnings : List Text}
    {failure : Failure} :
    (failureReport name configPath warnings failure).writeFault? = none ↔ failure.IsWritable := by
  rw [Report.writeFault?_eq_none_iff rfl]
  have hdetails : (failureReport name configPath warnings failure).details =
      failure.info.details.getD [] := rfl
  rw [hdetails, Failure.IsWritable]
  cases failure.info.details with
  | none =>
    simp [failureReport, Json.height, Json.hasLongNumber, Json.heightOfEntries,
      Json.anyLongMember, Report.heightLimit]
  | some details =>
    simp [failureReport, Json.height, Json.hasLongNumber, Report.heightLimit]

theorem writeFault?_successReport {name : Text} {configPath : Option Text} {warnings : List Text}
    {outcome : Outcome} :
    (successReport name configPath warnings outcome).writeFault? = none ↔
      Json.height outcome.data ≤ Report.heightLimit ∧ Json.hasLongNumber outcome.data = false := by
  rw [Report.writeFault?_eq_none_iff rfl]
  exact and_iff_left ⟨Nat.zero_le _, rfl⟩

/-- The report of what a task has come to, and the exit code that goes with it. -/
inductive Reported (s : Surroundings) (name : Text) (configPath : Option Text) (notes : Notes) :
    Except Failure Outcome → Report → Int → Prop
  | success {outcome : Outcome}
      (hreport : (successReport name configPath notes.warnings outcome).writeFault? = none) :
      Reported s name configPath notes (.ok outcome)
        (successReport name configPath notes.warnings outcome) outcome.exit
  | unwritten {outcome : Outcome} {fault : Fault}
      (hfault : (successReport name configPath notes.warnings outcome).writeFault? = some fault) :
      Reported s name configPath notes (.ok outcome)
        (failureReport name configPath notes.warnings (s.unexpected fault.cause)) 1
  | failure (failure : Failure) :
      Reported s name configPath notes (.error failure)
        (failureReport name configPath notes.warnings failure) failure.exitCode

section

variable {s : Surroundings} {mode : Mode} {configPath : Option Text} {name : Text} {notes : Notes}
  {failure : Failure} {outcome : Outcome} {fault : Fault}

theorem settingsPath_eq_error_iff {cause : Cause} :
    settingsPath s mode = .error cause ↔
      mode.configPath = none ∧ s.LacksSettings ∧ cause = .noHome := by
  rw [settingsPath, Surroundings.LacksSettings]
  cases mode.configPath with
  | some path => simp
  | none =>
    simp only [Settings.defaultPath, true_and, List.isEmpty_iff]
    split
    · rename_i hempty
      simp [hempty]
    · rename_i hne
      split
      · rename_i hpath
        simp [hpath]
      · rename_i hpath
        simp [hne, hpath, eq_comm]

theorem emit_of_fault (hform : mode.form = .json) {r : Report} {screen : Nat}
    (hfault : r.writeFault? = some fault) : r.emit screen mode = .error (.value fault) := by
  simp only [Report.emit, hform, hfault]

theorem emit_of_writable (hform : mode.form = .json) {r : Report} {screen : Nat}
    (hr : r.writeFault? = none) : r.emit screen mode = .ok (r.line, []) := by
  simp only [Report.emit, hform, hr]

theorem tells_line (r : Report) (exit : Int) (errors : Text)
    (logFile : Option (Text × List LogLine)) :
    Printed.Tells ⟨exit, r.line, errors, logFile⟩ r exit :=
  ⟨rfl, rfl, Json.newline_not_mem_write r.described⟩

theorem printFailure_of_fault (hform : mode.form = .json)
    (hfault : (failureReport name configPath notes.warnings failure).writeFault? = some fault) :
    printFailure s mode configPath name notes failure = .error fault.cause := by
  simp only [printFailure, emit_of_fault hform hfault, ViewFault.cause]

theorem exists_printFailure (hform : mode.form = .json)
    (hreport : (failureReport name configPath notes.warnings failure).writeFault? = none) :
    ∃ p, printFailure s mode configPath name notes failure = .ok p ∧
      p.Tells (failureReport name configPath notes.warnings failure) failure.exitCode := by
  simp only [printFailure, emit_of_writable hform hreport]
  exact ⟨_, rfl, tells_line _ _ _ _⟩

theorem exists_printed (hform : mode.form = .json)
    (hreport : (successReport name configPath notes.warnings outcome).writeFault? = none) :
    ∃ p, printed s mode configPath name (.ok outcome) notes = .ok p ∧
      p.Tells (successReport name configPath notes.warnings outcome) outcome.exit := by
  simp only [printed, emit_of_writable hform hreport]
  exact ⟨_, rfl, tells_line _ _ _ _⟩

/-- A result that cannot be written is reported as a failure. -/
theorem exists_printed_of_fault (hform : mode.form = .json)
    (hfault : (successReport name configPath notes.warnings outcome).writeFault? = some fault) :
    ∃ p, printed s mode configPath name (.ok outcome) notes = .ok p ∧
      p.Tells (failureReport name configPath notes.warnings (s.unexpected fault.cause)) 1 := by
  have hreport : (failureReport name configPath notes.warnings
      (s.unexpected fault.cause)).writeFault? = none :=
    writeFault?_failureReport.mpr (s.isWritable_unexpected _)
  simp only [printed, emit_of_fault hform hfault, ViewFault.cause]
  exact exists_printFailure hform hreport

/-- Whatever is printed in JSON is the report of what the task has come to. -/
theorem exists_reported_of_printed (hform : mode.form = .json) {result : Except Failure Outcome}
    {p : Printed} (hprinted : printed s mode configPath name result notes = .ok p) :
    ∃ report exit, Reported s name configPath notes result report exit ∧ p.Tells report exit := by
  cases result with
  | ok outcome =>
    cases hfault : (successReport name configPath notes.warnings outcome).writeFault? with
    | none =>
      obtain ⟨q, hq, htells⟩ := exists_printed (s := s) hform hfault
      obtain rfl : p = q := Except.ok.inj (hprinted.symm.trans hq)
      exact ⟨_, _, .success hfault, htells⟩
    | some fault =>
      obtain ⟨q, hq, htells⟩ := exists_printed_of_fault (s := s) hform hfault
      obtain rfl : p = q := Except.ok.inj (hprinted.symm.trans hq)
      exact ⟨_, _, .unwritten hfault, htells⟩
  | error failure =>
    cases hfault : (failureReport name configPath notes.warnings failure).writeFault? with
    | none =>
      obtain ⟨q, hq, htells⟩ := exists_printFailure (s := s) hform hfault
      obtain rfl : p = q := Except.ok.inj (hprinted.symm.trans hq)
      exact ⟨_, _, .failure failure, htells⟩
    | some fault =>
      rw [printed, printFailure_of_fault hform hfault] at hprinted
      cases hprinted

theorem runTask_eq {task : Option Text → Task Outcome} {result : Except Failure Outcome}
    (hpath : settingsPath s mode = .ok configPath)
    (hperform : (task configPath).perform = (result, notes)) :
    runTask s mode name task = printed s mode configPath name result notes := by
  rw [runTask, hpath]
  simp only [bind, Except.bind, hperform]

/-- A run is broken if the settings file cannot be told, or by a failure whose report cannot be
    written. -/
theorem runTask_eq_error_iff (hform : mode.form = .json) {task : Option Text → Task Outcome}
    {cause : Cause} :
    runTask s mode name task = .error cause ↔
      (mode.configPath = none ∧ s.LacksSettings ∧ cause = .noHome) ∨
        ∃ configPath failure notes fault, settingsPath s mode = .ok configPath ∧
          (task configPath).perform = (.error failure, notes) ∧
          (failureReport name configPath notes.warnings failure).writeFault? = some fault ∧
          cause = fault.cause := by
  rw [← settingsPath_eq_error_iff]
  cases hpath : settingsPath s mode with
  | error other =>
    have hrun : runTask s mode name task = .error other := by
      rw [runTask, hpath]
      rfl
    simp [hrun]
  | ok configPath =>
    rcases hperform : (task configPath).perform with ⟨result, notes⟩
    rw [runTask_eq hpath hperform]
    cases result with
    | error failure =>
      cases hfault : (failureReport name configPath notes.warnings failure).writeFault? with
      | none =>
        obtain ⟨p, hprinted, -⟩ := exists_printFailure (s := s) hform hfault
        simp [printed, hprinted, hperform, hfault]
      | some fault =>
        simp [printed, printFailure_of_fault hform hfault, hperform, hfault, eq_comm]
    | ok outcome =>
      have hprinted : ∃ p, printed s mode configPath name (.ok outcome) notes = .ok p := by
        cases hfault : (successReport name configPath notes.warnings outcome).writeFault? with
        | none => exact (exists_printed hform hfault).imp fun _ h => h.1
        | some fault => exact (exists_printed_of_fault hform hfault).imp fun _ h => h.1
      obtain ⟨p, hprinted⟩ := hprinted
      simp [hprinted, hperform]

end

/-- A run in JSON prints one report, on one line, and its exit code is that of the result or of the
    failure. A result that cannot be written is reported as a failure. No report is printed if the
    settings file cannot be told, or if the report of a failure cannot be written, which is never so
    for the failures of the commands. -/
theorem runTask_tells_of_json (s : Surroundings) (mode : Mode) (hform : mode.form = .json) :
    (∀ (name : Text) (task : Option Text → Task Outcome),
      (∀ cause, runTask s mode name task = .error cause ↔
        (mode.configPath = none ∧ s.LacksSettings ∧ cause = .noHome) ∨
          ∃ configPath failure notes fault, settingsPath s mode = .ok configPath ∧
            (task configPath).perform = (.error failure, notes) ∧
            (failureReport name configPath notes.warnings failure).writeFault? = some fault ∧
            cause = fault.cause) ∧
      ∀ p, runTask s mode name task = .ok p → ∃ configPath result notes report exit,
        settingsPath s mode = .ok configPath ∧ (task configPath).perform = (result, notes) ∧
          Reported s name configPath notes result report exit ∧ p.Tells report exit) ∧
    ∀ command : Command, (∃ cause, command.run s mode = .error cause) ↔
      mode.configPath = none ∧ s.LacksSettings := by
  refine ⟨fun name task => ⟨fun cause => runTask_eq_error_iff hform, fun p hrun => ?_⟩,
    fun command => ⟨?_, ?_⟩⟩
  · cases hpath : settingsPath s mode with
    | error cause =>
      rw [runTask, hpath] at hrun
      cases hrun
    | ok configPath =>
      rcases hperform : (task configPath).perform with ⟨result, notes⟩
      rw [runTask_eq hpath hperform] at hrun
      obtain ⟨report, exit, hreported, htells⟩ := exists_reported_of_printed hform hrun
      exact ⟨configPath, result, notes, report, exit, rfl, hperform, hreported, htells⟩
  · rintro ⟨cause, hrun⟩
    rcases (runTask_eq_error_iff hform).mp hrun with
      ⟨hpath, hlacks, -⟩ | ⟨configPath, failure, notes, fault, -, hperform, hfault, -⟩
    · exact ⟨hpath, hlacks⟩
    · have hfails : (Task.after (command.task s configPath) {}).1 = .error failure :=
        congrArg Prod.fst hperform
      have hwritable := failsIn_task s configPath command {} failure hfails
      rw [writeFault?_failureReport.mpr hwritable] at hfault
      cases hfault
  · rintro ⟨hpath, hlacks⟩
    exact ⟨.noHome, (runTask_eq_error_iff hform).mpr (Or.inl ⟨hpath, hlacks, rfl⟩)⟩

/-- A query with a filter and a preset is reported as misused, unless the settings file is in the
    home directory of somebody who is not known. -/
theorem run_tells_of_both_filters :
    let s : Surroundings :=
      { now := ⟨0, by decide⟩, environment := [], homeOf := fun _ => none,
        files := fun _ => .missing, input := .empty, screen := 80, word := fun _ => [] }
    let lost : Surroundings :=
      { s with environment := [(Settings.pathVariable, "~nobody/c.toml".toList)] }
    let mode : Mode := { form := .json }
    let command := find { filter := some "a=1".toList, preset := some "jobs".toList }
    mode.form = .json ∧ (∃ cause, command.run lost mode = .error cause) ∧
      ∃ p, command.run s mode = .ok p ∧
        p.Tells (failureReport "match".toList none [] bothFilters) 2 := by
  intro s lost mode command
  have hlost : lost.LacksSettings := ⟨by decide, by decide⟩
  have hknown : ¬ s.LacksSettings := fun h => h.1 rfl
  obtain ⟨hruns, hcommands⟩ := runTask_tells_of_json s mode rfl
  refine ⟨rfl, ((runTask_tells_of_json lost mode rfl).2 command).mpr ⟨rfl, hlost⟩, ?_⟩
  cases hrun : command.run s mode with
  | error cause => exact absurd ((hcommands command).mp ⟨cause, hrun⟩).2 hknown
  | ok p =>
    obtain ⟨configPath, result, notes, report, exit, hpath, hperform, hreported, htells⟩ :=
      (hruns command.name (command.task s)).2 p hrun
    cases hpath
    cases hperform
    cases hreported
    exact ⟨p, rfl, htells⟩

end Command

end RecordFilter
