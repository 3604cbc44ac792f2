import RecordFilter.Proofs.Command.Find
import RecordFilter.Proofs.Json.Faults
import RecordFilter.Proofs.Toml.Faults

/-!
Files of settings, presets and records whatever their content: which contents are told of as what
they are, and which end a run as an internal error.

Most contents that cannot be used are refused, with the exit code for a wrong use of the program. A
content is an internal error if it is no text in the common encoding, or if its reader meets a
limit: on the digits of an integer or on the depth of nesting.
-/

namespace RecordFilter

/-- The content is no text, or the reader of its text does not get to its end for another reason
    than that the text breaks the rules. -/
def Overtaxes {ε α : Type} (read : Text → Except ε α) (malformed : ε) (content : ByteArray) :
    Prop :=
  decode? content = none ∨
    ∃ text e, decode? content = some text ∧ read text = .error e ∧ e ≠ malformed

/-- The failure is the fault of the user, and of the type. -/
def Failure.IsTold (type : String) (failure : Failure) : Prop :=
  failure.exitCode = 2 ∧ failure.info.type = type.toList

/-- The failure is told as one of the program. -/
def Failure.IsInternal (failure : Failure) : Prop :=
  failure.exitCode = 1 ∧ failure.info.type = "internal_error".toList

/-- What a step makes of a content: a result or a failure of the type, and the failure if its text
    breaks the rules, unless the content overtaxes the reader. Then it is an internal error. -/
structure Reports {δ ε α β : Type} (read : Text → Except ε α) (malformed : ε) (content : ByteArray)
    (type : String) (failure : δ → Failure) (step : Except δ β) : Prop where
  told (hfits : ¬ Overtaxes read malformed content) :
    Ends (fun _ => True) (fun e => (failure e).IsTold type) step
  refused {text : Text} (hcontent : decode? content = some text)
    (hmalformed : read text = .error malformed) :
    ∃ e, step = .error e ∧ (failure e).IsTold type
  internal (hovertaxed : Overtaxes read malformed content) :
    ∃ e, step = .error e ∧ (failure e).IsInternal

/-- The file of records, or the input for a hyphen, has the content. -/
def Surroundings.HasSource (s : Surroundings) (source : Text) (content : ByteArray) : Prop :=
  (if source = ['-'] then .bytes s.input else s.files (Path.normalize source)) =
    FileState.bytes content

theorem Surroundings.isInternal_broken (s : Surroundings) (cause : Cause) :
    (s.fileFailure (.broken cause)).IsInternal :=
  ⟨rfl, rfl⟩

theorem Surroundings.isTold_refused (s : Surroundings) (wording : Wording) :
    (s.fileFailure (.refused wording)).IsTold "config_error" :=
  ⟨rfl, rfl⟩

section

variable {ε α : Type} {read : Text → Except ε α} {malformed : ε} {content : ByteArray} {text : Text}

theorem overtaxes_of_decode?_eq_none (hcontent : decode? content = none) :
    Overtaxes read malformed content :=
  Or.inl hcontent

theorem overtaxes_iff (hcontent : decode? content = some text) :
    Overtaxes read malformed content ↔ ∃ e, read text = .error e ∧ e ≠ malformed := by
  simp [Overtaxes, hcontent]

end

/-- What comes of a content if it is no text, if its text is read, if the text breaks the rules,
    and if its reader fails for another reason. -/
theorem reports_of_read {δ ε α β : Type} {read : Text → Except ε α} {malformed : ε}
    {content : ByteArray} {type : String} {failure : δ → Failure} {step : Except δ β}
    (hbytes : decode? content = none → ∃ e, step = .error e ∧ (failure e).IsInternal)
    (hread : ∀ text, decode? content = some text → ∀ a, read text = .ok a →
      Ends (fun _ => True) (fun e => (failure e).IsTold type) step)
    (hmalformed : ∀ text, decode? content = some text → read text = .error malformed →
      ∃ e, step = .error e ∧ (failure e).IsTold type)
    (hbroken : ∀ text, decode? content = some text → ∀ fault, read text = .error fault →
      fault ≠ malformed → ∃ e, step = .error e ∧ (failure e).IsInternal) :
    Reports read malformed content type failure step where
  told hfits := by
    cases hcontent : decode? content with
    | none => exact absurd (overtaxes_of_decode?_eq_none hcontent) hfits
    | some text =>
      cases hresult : read text with
      | ok a => exact hread text hcontent a hresult
      | error fault =>
        by_cases hfault : fault = malformed
        · rw [hfault] at hresult
          obtain ⟨e, hstep, htold⟩ := hmalformed text hcontent hresult
          rw [hstep]
          exact .error htold
        · exact absurd ((overtaxes_iff hcontent).mpr ⟨fault, hresult, hfault⟩) hfits
  refused hcontent hresult := hmalformed _ hcontent hresult
  internal := by
    rintro (hcontent | ⟨text, fault, hcontent, hfault, hne⟩)
    · exact hbytes hcontent
    · exact hbroken text hcontent fault hfault hne

section

variable {s : Surroundings} {path : Text} {content : ByteArray}

theorem Settings.ends_ofTable (s : Surroundings) (path : Text) (table : Toml.Table) :
    Ends (fun _ => True) (fun fault => (s.fileFailure fault).IsTold "config_error")
      (ofTable path table) := by
  unfold ofTable
  split
  · exact .error (s.isTold_refused _)
  · split
    · exact .error (s.isTold_refused _)
    · exact .ok trivial

theorem Settings.reports_load (hfile : s.files path = .bytes content) :
    Reports Toml.read .malformed content "config_error" s.fileFailure
      (load s.files (some path)) := by
  simp only [load, hfile, loadContent]
  refine reports_of_read (fun hcontent => ?_) (fun text hcontent table hread => ?_)
    (fun text hcontent hread => ?_) fun text hcontent fault hread hfault => ?_
  · rw [hcontent]
    exact ⟨_, rfl, s.isInternal_broken _⟩
  · simp only [hcontent, hread]
    exact (ends_ofTable s path table).bind fun _ _ => .ok trivial
  · simp only [hcontent, hread]
    exact ⟨_, rfl, s.isTold_refused _⟩
  · simp only [hcontent, hread]
    cases fault with
    | malformed => contradiction
    | tooManyDigits => exact ⟨_, rfl, s.isInternal_broken _⟩
    | nestedTooDeeply => exact ⟨_, rfl, s.isInternal_broken _⟩

theorem Preset.reports_load (hfile : s.files path = .bytes content) :
    Reports Json.read .malformed content "config_error" s.fileFailure
      (load s.files path) := by
  simp only [load, hfile, FileState.read]
  refine reports_of_read (fun hcontent => ?_) (fun text hcontent value hread => ?_)
    (fun text hcontent hread => ?_) fun text hcontent fault hread hfault => ?_
  · rw [hcontent]
    exact ⟨_, rfl, s.isInternal_broken _⟩
  · simp only [hcontent, hread]
    split
    · exact .ok trivial
    · exact .error (s.isTold_refused _)
  · simp only [hcontent, hread]
    exact ⟨_, rfl, s.isTold_refused _⟩
  · simp only [hcontent, hread]
    cases fault with
    | malformed => contradiction
    | tooManyDigits => exact ⟨_, rfl, s.isInternal_broken _⟩
    | nestedTooDeeply => exact ⟨_, rfl, s.isInternal_broken _⟩

end

namespace Records

/-- The parts of a text that are read one by one: an array, or the lines that are not blank. -/
def parts (text : Text) : List Text :=
  match Text.trim text with
  | [] => []
  | '[' :: rest => ['[' :: rest]
  | t => (Text.lines t).filter fun line => !Text.isBlankText line

/-- Reads the parts of a text, one by one. -/
def readParts (text : Text) : Except Json.JsonError (List Value) :=
  (parts text).mapM Json.read

theorem isInfix_of_mem_parts {text part : Text} (hpart : part ∈ parts text) : part <:+: text := by
  refine List.IsInfix.trans ?_ (Text.isInfix_trim text)
  unfold parts at hpart
  split at hpart
  · cases hpart
  · rename_i rest harray
    rw [List.mem_singleton.mp hpart, harray]
  · exact Text.isInfix_of_mem_lines (List.mem_of_mem_filter hpart)

/-- The fault that a part ends in. -/
def faultOf : Json.JsonError → RecordsFault
  | .malformed => .malformed
  | .tooManyDigits => .broken .tooManyDigits
  | .nestedTooDeeply => .broken .nestedTooDeeply

theorem readValue_eq (text : Text) : readValue text = (Json.read text).mapError faultOf := by
  unfold readValue
  split <;> rename_i hread <;> rw [hread] <;> rfl

/-- The values in what has been read of the parts of a text: the items of an array, or all. -/
def valuesIn (text : Text) (values : List Value) : Except RecordsFault (List Value) :=
  match Text.trim text with
  | '[' :: _ =>
    match values with
    | [.list items] => .ok items
    | _ => .error .notRecords
  | _ => .ok values

theorem parts_eq_lines {text : Text} (hnot : (Text.trim text).head? ≠ some '[') :
    parts text = (Text.lines (Text.trim text)).filter fun line => !Text.isBlankText line := by
  unfold parts
  split
  · rename_i hempty
    rw [hempty]
    rfl
  · rename_i rest harray
    rw [harray] at hnot
    exact absurd rfl hnot
  · rfl

theorem valuesIn_eq_ok {text : Text} (hnot : (Text.trim text).head? ≠ some '[')
    (values : List Value) : valuesIn text values = .ok values := by
  unfold valuesIn
  split
  · rename_i rest harray
    rw [harray] at hnot
    exact absurd rfl hnot
  · rfl

/-- Whatever is wrong with a part is wrong with the records. -/
theorem readValues_eq (text : Text) :
    readValues text = ((readParts text).mapError faultOf >>= valuesIn text) := by
  unfold readValues readParts
  dsimp only
  split
  · rename_i hblank
    have hparts : parts text = [] := by simp only [parts, hblank]
    have hvalues : valuesIn text [] = .ok [] := by simp only [valuesIn, hblank]
    rw [hparts, List.mapM_nil]
    exact hvalues.symm
  · rename_i rest harray
    have hparts : parts text = ['[' :: rest] := by simp only [parts, harray]
    rw [hparts, List.mapM_cons, List.mapM_nil, harray, readValue_eq]
    cases Json.read ('[' :: rest) with
    | error e => rfl
    | ok value =>
      change _ = valuesIn text [value]
      simp only [valuesIn, harray]
      cases value <;> rfl
  · rename_i hblank hnot
    have hhead : (Text.trim text).head? ≠ some '[' := by
      intro hhead
      obtain ⟨rest, hrest⟩ := List.head?_eq_some_iff.mp hhead
      exact hnot rest hrest
    rw [parts_eq_lines hhead, funext (valuesIn_eq_ok hhead), funext readValue_eq, mapM_mapError]
    cases List.mapM Json.read _ <;> rfl

theorem ends_valuesIn (text : Text) (values : List Value) :
    Ends (fun _ => True) (· = .notRecords) (valuesIn text values) := by
  unfold valuesIn
  split
  · split
    · exact .ok trivial
    · exact .error rfl
  · exact .ok trivial

theorem ends_ofValue (value : Value) :
    Ends (fun _ => True) (· = .notRecords) (ofValue value) := by
  cases value with
  | dict entries => exact .ok trivial
  | _ => exact .error rfl

theorem read_of_readParts_eq_error {text : Text} {e : Json.JsonError}
    (hparts : readParts text = .error e) : read text = .error (faultOf e) := by
  rw [read, readValues_eq, hparts]
  rfl

/-- If all parts can be read, the values in them are at most no records. -/
theorem ends_read {text : Text} {values : List Value} (hparts : readParts text = .ok values) :
    Ends (fun _ => True) (· = .notRecords) (read text) := by
  rw [read, readValues_eq, hparts]
  refine (ends_valuesIn text values).bind fun values _ => ?_
  exact ends_mapM ends_ofValue

theorem isTold_failure_malformed (s : Surroundings) (source : Text) :
    (failure s source .malformed).IsTold "usage_error" :=
  ⟨rfl, rfl⟩

theorem isTold_failure_notRecords (s : Surroundings) (source : Text) :
    (failure s source .notRecords).IsTold "usage_error" :=
  ⟨rfl, rfl⟩

theorem isInternal_failure_broken (s : Surroundings) (source : Text) (cause : Cause) :
    (failure s source (.broken cause)).IsInternal :=
  ⟨rfl, rfl⟩

theorem sourceText_eq {s : Surroundings} {source : Text} {content : ByteArray}
    (hsource : s.HasSource source content) :
    sourceText s source = (decode? content).elim (.error (.broken .notText)) .ok := by
  rw [sourceText, hsource]
  cases hcontent : decode? content <;> simp only [FileState.read, hcontent] <;> rfl

theorem reports_readSource {s : Surroundings} {source : Text} {content : ByteArray}
    (hsource : s.HasSource source content) :
    Reports readParts .malformed content "usage_error" (failure s source)
      (readSource s source) := by
  rw [readSource, sourceText_eq hsource]
  refine reports_of_read (fun hcontent => ?_) (fun text hcontent values hparts => ?_)
    (fun text hcontent hparts => ?_) fun text hcontent fault hparts hfault => ?_
  · rw [hcontent]
    exact ⟨_, rfl, isInternal_failure_broken s source _⟩
  · rw [hcontent]
    refine (ends_read hparts).imp (fun _ h => h) ?_
    rintro _ rfl
    exact isTold_failure_notRecords s source
  · rw [hcontent, Option.elim_some]
    change ∃ e, read text = .error e ∧ _
    rw [read_of_readParts_eq_error hparts]
    exact ⟨_, rfl, isTold_failure_malformed s source⟩
  · rw [hcontent, Option.elim_some]
    change ∃ e, read text = .error e ∧ _
    rw [read_of_readParts_eq_error hparts]
    cases fault with
    | malformed => contradiction
    | tooManyDigits => exact ⟨_, rfl, isInternal_failure_broken s source _⟩
    | nestedTooDeeply => exact ⟨_, rfl, isInternal_failure_broken s source _⟩

/-- The fault of a part tells the same of the whole text. -/
theorem tells_of_readParts_eq_error {text : Text} {e : Json.JsonError}
    (hparts : readParts text = .error e) : Json.Tells Json.depthLimit text e := by
  obtain ⟨before, part, after, hsplit, -, hpart⟩ := mapM_eq_error_iff.mp hparts
  have hmem : part ∈ parts text := by
    rw [hsplit]
    exact List.mem_append_right _ List.mem_cons_self
  exact (Json.tells_of_read_eq_error hpart).of_isInfix (isInfix_of_mem_parts hmem)

end Records

/-- The query asks for something, and not for a filter and a preset at once. -/
structure Query.IsSound (q : Query) : Prop where
  notBoth : ¬ (q.filter.isSome && q.preset.isSome)
  notNone : ¬ (q.filter.isNone && q.preset.isNone && q.since.isNone)

namespace Command

/-- The command comes to a file of settings, presets or records that it cannot use, with the
    failure. -/
inductive Meets (s : Surroundings) (configPath : Option Text) : Command → Failure → Prop
  | parseSettings {filter : Text} {isAny : Bool} {fault : FileFault}
      (hsettings : Settings.load s.files configPath = .error fault) :
      Meets s configPath (.parse filter isAny) (s.fileFailure fault)
  | presetsFile {view : Option Text} {path : Text} {fault : FileFault}
      (hpresets : Preset.load s.files path = .error fault) :
      Meets s configPath (.presets view (some path)) (s.fileFailure fault)
  | presetsSettings {view file : Option Text} {fault : FileFault}
      (hpresets : ∀ path ∈ file, ∃ presets, Preset.load s.files path = .ok presets)
      (hsettings : Settings.load s.files configPath = .error fault) :
      Meets s configPath (.presets view file) (s.fileFailure fault)
  | findSettings {q : Query} {range : Option DateRange} {fault : FileFault} (hquery : q.IsSound)
      (hrange : AsksFor s q range) (hsettings : Settings.load s.files configPath = .error fault) :
      Meets s configPath (.find q) (s.fileFailure fault)
  | findRecords {q : Query} {range : Option DateRange} {aliases : AliasTable}
      {lines : List LogLine} {f : Filter} {fault : Records.RecordsFault} (hquery : q.IsSound)
      (hrange : AsksFor s q range)
      (hsettings : Settings.load s.files configPath = .ok (aliases, lines))
      (hfilter : (filterOf s aliases q).Yields f)
      (hrecords : Records.readSource s q.source = .error fault) :
      Meets s configPath (.find q) (Records.failure s q.source fault)

section

variable {s : Surroundings} {configPath : Option Text} {failure : Failure}

theorem fails_readAliases {fault : FileFault}
    (hsettings : Settings.load s.files configPath = .error fault) :
    (readAliases s configPath).Fails (s.fileFailure fault) :=
  (Task.fails_ofExcept hsettings).bind

/-- A task fails with what it meets. -/
theorem Meets.fails {command : Command} (hmeets : command.Meets s configPath failure) :
    (command.task s configPath).Fails failure := by
  cases hmeets with
  | parseSettings hsettings => exact (fails_readAliases hsettings).bind
  | presetsFile hpresets => exact (Task.fails_ofExcept hpresets).bind
  | @presetsSettings view file fault hpresets hsettings =>
    cases file with
    | none => exact (Task.yields_pure _).bind_fails (fails_readAliases hsettings).bind
    | some path =>
      obtain ⟨presets, hload⟩ := hpresets path rfl
      exact (Task.yields_ofExcept hload).bind_fails (fails_readAliases hsettings).bind
  | findSettings hquery hrange hsettings =>
    refine Task.Fails.unless hquery.notBoth ?_
    refine Task.Fails.unless hquery.notNone ?_
    refine (yields_rangeOf hrange).bind_fails ?_
    exact (fails_readAliases hsettings).bind
  | findRecords hquery hrange hsettings hfilter hrecords =>
    refine Task.Fails.unless hquery.notBoth ?_
    refine Task.Fails.unless hquery.notNone ?_
    refine (yields_rangeOf hrange).bind_fails ?_
    refine (yields_readAliases hsettings).bind_fails ?_
    refine hfilter.bind_fails ?_
    exact (Task.fails_ofExcept hrecords).bind

/-- A failure that can be written is printed, in JSON as its report. -/
theorem exists_printed_of_isWritable (s : Surroundings) (mode : Mode) (configPath : Option Text)
    (name : Text) (notes : Notes) (hfailure : failure.IsWritable) :
    ∃ p, printed s mode configPath name (.error failure) notes = .ok p ∧
      p.exit = failure.exitCode ∧
      (mode.form = .json →
        p.Tells (failureReport name configPath notes.warnings failure) failure.exitCode) := by
  cases hform : mode.form with
  | json =>
    have hreport : (failureReport name configPath notes.warnings failure).writeFault? = none :=
      writeFault?_failureReport.mpr hfailure
    obtain ⟨p, hprinted, htells⟩ := exists_printFailure (s := s) hform hreport
    exact ⟨p, hprinted, htells.exit_eq, fun _ => htells⟩
  | table =>
    simp only [printed, printFailure, Report.emit, hform]
    exact ⟨_, rfl, rfl, fun hjson => ReportForm.noConfusion hjson⟩

end

end Command

open Command in
/-- A run tells of what its command meets. -/
theorem CommandLine.run_of_meets {s : Surroundings} {args : List Text} {mode : Mode}
    {command : Command} {configPath : Option Text} {failure : Failure}
    (hargs : CommandLine.read s.files args = .ok (.run mode command))
    (hpath : settingsPath s mode = .ok configPath) (hmeets : command.Meets s configPath failure) :
    ∃ p warnings, CommandLine.run s args = .printed p ∧ p.exit = failure.exitCode ∧
      (mode.form = .json →
        p.Tells (failureReport command.name configPath warnings failure) failure.exitCode) := by
  rcases hperform : (command.task s configPath).perform with ⟨result, notes⟩
  have hfails : (Task.after (command.task s configPath) {}).1 = .error failure := hmeets.fails {}
  obtain rfl : result = .error failure := (congrArg Prod.fst hperform).symm.trans hfails
  have hwritable := failsIn_task s configPath command {} failure hfails
  obtain ⟨p, hprinted, hexit, htells⟩ :=
    exists_printed_of_isWritable s mode configPath command.name notes hwritable
  have hrun : command.run s mode = .ok p := (runTask_eq hpath hperform).trans hprinted
  refine ⟨p, notes.warnings, ?_, hexit, htells⟩
  rw [CommandLine.run, hargs]
  simp only [hrun]

/-- A content of a file of settings or presets, or of records, is used or refused as a wrong use of
    the program, and always refused if its text breaks the rules, unless it is no text or overtaxes
    its reader: then it is an internal error. A text overtaxes its reader only with a number of too
    many digits, or with too many brackets and braces. A run that comes to a file that it cannot use
    ends with the exit code of the failure, and reports it. -/
theorem files_reported_unless_overtaxing (s : Surroundings) (content : ByteArray) :
    (∀ path, s.files path = .bytes content →
      Reports Toml.read .malformed content "config_error" s.fileFailure
          (Settings.load s.files (some path)) ∧
        Reports Json.read .malformed content "config_error" s.fileFailure
          (Preset.load s.files path)) ∧
    (∀ source, s.HasSource source content →
      Reports Records.readParts .malformed content "usage_error"
        (Records.failure s source) (Records.readSource s source)) ∧
    (∀ text, decode? content = some text →
      (Overtaxes Toml.read .malformed content →
        Toml.HasLongNumber text ∨ Toml.depthLimit < Toml.nestCost text) ∧
      (Overtaxes Json.read .malformed content ∨ Overtaxes Records.readParts .malformed content →
        Json.HasLongNumber text ∨ Json.depthLimit < Json.nestCost text)) ∧
    ∀ args mode command configPath failure,
      CommandLine.read s.files args = .ok (.run mode command) →
      Command.settingsPath s mode = .ok configPath → command.Meets s configPath failure →
      ∃ p warnings, CommandLine.run s args = .printed p ∧ p.exit = failure.exitCode ∧
        (mode.form = .json → p.Tells
          (Command.failureReport command.name configPath warnings failure) failure.exitCode) := by
  refine ⟨fun path hfile => ⟨Settings.reports_load hfile, Preset.reports_load hfile⟩,
    fun source hsource => Records.reports_readSource hsource, fun text hcontent => ⟨?_, ?_⟩,
    fun _ _ _ _ _ hargs hpath hmeets => CommandLine.run_of_meets hargs hpath hmeets⟩
  · intro hovertaxed
    obtain ⟨e, hread, he⟩ := (overtaxes_iff hcontent).mp hovertaxed
    exact (Toml.tells_of_read_eq_error hread).long_or_deep he
  · rintro (hovertaxed | hovertaxed)
    · obtain ⟨e, hread, he⟩ := (overtaxes_iff hcontent).mp hovertaxed
      exact (Json.tells_of_read_eq_error hread).long_or_deep he
    · obtain ⟨e, hparts, he⟩ := (overtaxes_iff hcontent).mp hovertaxed
      exact (Records.tells_of_readParts_eq_error hparts).long_or_deep he

/-- A settings file that is an equals sign is refused, and one that is a byte of no text ends the
    run as an internal error. -/
theorem run_of_refused_and_of_overtaxing_settings :
    let s (content : ByteArray) : Surroundings :=
      { now := ⟨0, by decide⟩, environment := [], homeOf := fun _ => none,
        files := fun _ => .bytes content, input := .empty, screen := 80, word := fun _ => [] }
    let args := ["--config", "c.toml", "parse", "a=1"].map String.toList
    (∃ p, CommandLine.run (s ⟨#[61]⟩) args = .printed p ∧ p.exit = 2) ∧
      ∃ p, CommandLine.run (s ⟨#[255]⟩) args = .printed p ∧ p.exit = 1 := by
  intro s args
  let path := "c.toml".toList
  let mode : Mode := { configPath := some path }
  let command := Command.parse "a=1".toList false
  have hargs : ∀ content, CommandLine.read (s content).files args = .ok (.run mode command) :=
    fun _ => rfl
  constructor
  · obtain ⟨hloads, -, -, hruns⟩ := files_reported_unless_overtaxing (s ⟨#[61]⟩) ⟨#[61]⟩
    have hcontent : decode? ⟨#[61]⟩ = some ['='] := by decide
    have hread : Toml.read ['='] = .error .malformed := rfl
    obtain ⟨fault, hload, hexit, -⟩ := (hloads path rfl).1.refused hcontent hread
    obtain ⟨p, -, hrun, hp, -⟩ := hruns args mode command (some path) _ (hargs _) rfl
      (.parseSettings hload)
    exact ⟨p, hrun, hp.trans hexit⟩
  · obtain ⟨hloads, -, -, hruns⟩ := files_reported_unless_overtaxing (s ⟨#[255]⟩) ⟨#[255]⟩
    have hcontent : decode? ⟨#[255]⟩ = none := by decide
    obtain ⟨fault, hload, hexit, -⟩ :=
      (hloads path rfl).1.internal (overtaxes_of_decode?_eq_none hcontent)
    obtain ⟨p, -, hrun, hp, -⟩ := hruns args mode command (some path) _ (hargs _) rfl
      (.parseSettings hload)
    exact ⟨p, hrun, hp.trans hexit⟩

end RecordFilter
