import RecordFilter.Proofs.Clause.Values
import RecordFilter.Proofs.Command.Reports
import RecordFilter.Proofs.Filter.Selection
import RecordFilter.Proofs.Json.Trimming

/-!
Finding records in an array on the standard input: what is found, and how it is reported.
-/

namespace RecordFilter

namespace Records

theorem mapM_ofValue (records : List Record) :
    (records.map Value.dict).mapM ofValue = .ok records := by
  rw [mapM_eq_ok_iff, List.forall₂_map_left_iff]
  exact List.forall₂_same.mpr fun _ _ => rfl

/-- The records of an array are its objects, in their order. -/
theorem read_of_array {t : Text} {records : List Record}
    (hread : Json.read t = .ok (.list (records.map .dict))) : read t = .ok records := by
  obtain ⟨⟨after, htrim⟩, htrimmed⟩ := Json.read_trim (.list _) hread
  have hvalues : readValues t = .ok (records.map .dict) := by
    rw [htrim] at htrimmed
    simp only [readValues, htrim, readValue, htrimmed]
    rfl
  rw [read, hvalues]
  exact mapM_ofValue records

theorem readSource_of_array {s : Surroundings} {input : Text} {records : List Record}
    (hinput : decode? s.input = some input)
    (hread : Json.read input = .ok (.list (records.map .dict))) :
    readSource s ['-'] = .ok records := by
  have htext : sourceText s ['-'] = .ok input := by
    simp only [sourceText, if_pos, FileState.read, hinput]
  rw [readSource, htext]
  exact read_of_array hread

end Records

namespace Command

variable {s : Surroundings} {mode : Mode} {q : Query} {configPath : Option Text} {text : Text}
  {aliases : AliasTable} {lines : List LogLine} {f : Filter} {range : Option DateRange}
  {records : List Record} {test : RecordTest} {holds : Record → Bool}

/-- The records that a search finds. -/
def foundRecords (now : Moment) (holds : Record → Bool) (range : Option DateRange)
    (records : List Record) : List Record :=
  records.filter fun r => holds r && range.all (·.selects now r)

theorem selectRecords_eq (hcompile : f.compile = .ok test)
    (hholds : ∀ r ∈ records, f.holds r = .ok (holds r)) (now : Moment) :
    selectRecords now f range records = .ok (foundRecords now holds range records) := by
  have hselect : Filter.select (some f) id records = .ok (records.filter holds) :=
    Filter.select_eq_filter hcompile hholds
  rw [selectRecords, hselect, foundRecords]
  cases range with
  | none => simp [bind, Except.bind, pure, Except.pure]
  | some range => simp [bind, Except.bind, pure, Except.pure, List.filter_filter, Bool.and_comm]

/-- The range of dates that a query asks for, if it asks for one. -/
def AsksFor (s : Surroundings) (q : Query) (range : Option DateRange) : Prop :=
  match q.since with
  | none => range = none
  | some since =>
    ∃ dates, DateRange.read s.now (some q.dateField) since = .ok dates ∧ range = some dates

theorem yields_rangeOf (hrange : AsksFor s q range) : (rangeOf s q).Yields range := by
  cases hsince : q.since with
  | none =>
    simp only [AsksFor, hsince] at hrange
    subst hrange
    simp only [rangeOf, hsince]
    exact Task.yields_pure none
  | some since =>
    simp only [AsksFor, hsince] at hrange
    obtain ⟨dates, hread, rfl⟩ := hrange
    simp only [rangeOf, hsince]
    exact (Task.yields_ofExcept hread).bind (Task.yields_pure (some dates)).warn_if

theorem yields_readAliases (hsettings : Settings.load s.files configPath = .ok (aliases, lines)) :
    (readAliases s configPath).Yields aliases :=
  (leaves_readAliases hsettings).yields

/-- The logic of a query. -/
def logicOf (q : Query) : Text :=
  if q.isAny then Filter.orLogic else Filter.andLogic

theorem yields_filterOf (hfilter : q.filter = some text) (hpreset : q.preset = none)
    (hparse : Filter.parse aliases text (logicOf q) = .ok f) :
    (filterOf s aliases q).Yields f := by
  rw [Filter.parse, map_eq_ok_iff] at hparse
  obtain ⟨expressions, hread, rfl⟩ := hparse
  have hparsed : Filter.parse aliases (q.filter.getD []) Filter.andLogic =
      .ok ⟨expressions, Filter.andLogic, none, none⟩ := by
    rw [hfilter, Option.getD_some, Filter.parse, hread]
    rfl
  have hstep := (leaves_readFilter hparsed).yields
  unfold filterOf
  simp only [hpreset]
  refine hstep.bind ?_
  rw [logicOf]
  cases q.isAny with
  | true => exact Task.yields_pure _
  | false => exact Task.yields_pure _

/-- The result of a search. -/
def foundOutcome (q : Query) (found : List Record) (total : Nat) : Outcome :=
  { data := foundData found total, exit := if q.check && found.isEmpty then 1 else 0 }

theorem yields_findTask (hfilter : q.filter = some text) (hpreset : q.preset = none)
    (hrange : AsksFor s q range)
    (hsettings : Settings.load s.files configPath = .ok (aliases, lines))
    (hparse : Filter.parse aliases text (logicOf q) = .ok f)
    (hrecords : Records.readSource s q.source = .ok records) (hcompile : f.compile = .ok test)
    (hholds : ∀ r ∈ records, f.holds r = .ok (holds r)) :
    (findTask s configPath q).Yields
      (foundOutcome q (foundRecords s.now holds range records) records.length) := by
  obtain ⟨shown, hshown⟩ := Filter.exists_text_of_parse hparse
  refine Task.Yields.unless (by simp [hpreset]) ?_
  refine Task.Yields.unless (by simp [hfilter]) ?_
  refine (yields_rangeOf hrange).bind ?_
  refine (yields_readAliases hsettings).bind ?_
  refine (yields_filterOf hfilter hpreset hparse).bind ?_
  refine (Task.yields_ofExcept hrecords).bind ?_
  refine (Task.yields_log _).bind ?_
  refine (Task.yields_ofExcept (selectRecords_eq hcompile hholds s.now)).bind ?_
  refine (Task.yields_ofExcept hshown).bind ?_
  refine (Task.yields_log _).bind ?_
  exact (Task.yields_pure _).warn_if

section

variable {found : List Record} {total : Nat}

theorem heightOfAll_records_le_iff {n : Nat} :
    Json.heightOfAll (found.map .dict) ≤ n ↔ ∀ r ∈ found, Json.height (.dict r) ≤ n := by
  rw [Json.heightOfAll_le_iff, List.forall_mem_map]

theorem height_foundData_le_iff :
    Json.height (foundData found total) ≤ Report.heightLimit ↔
      ∀ r ∈ found, Json.height (.dict r) + 2 ≤ Report.heightLimit := by
  have hheight : Json.height (foundData found total) =
      max 1 (max 1 (max (Json.heightOfAll (found.map .dict) + 1) 0)) + 1 := rfl
  have hlimit : Report.heightLimit = 253 + 2 := rfl
  rw [hheight, hlimit]
  simp only [Nat.add_le_add_iff_right]
  rw [← heightOfAll_records_le_iff]
  omega

theorem isData_foundData (hfound : ∀ r ∈ found, Json.IsData (.dict r))
    (hcount : found.length ≤ total) (htotal : total < 10 ^ digitLimit) :
    Json.IsData (foundData found total) := by
  have hnames : (["count", "total", "records"].map String.toList).Nodup := by decide
  refine .dict hnames ?_
  simp only [List.forall_mem_cons]
  refine ⟨.plain (.integer (hcount.trans_lt htotal)), .plain (.integer htotal), .list ?_, nofun⟩
  exact List.forall_mem_map.mpr hfound

theorem lt_of_hasLongNumber_foundData (hlong : Json.hasLongNumber (foundData found total) = false) :
    total < 10 ^ digitLimit := by
  simp only [foundData, Json.hasLongNumber, Json.anyLongMember, Bool.or_eq_false_iff,
    decide_eq_false_iff_not, writtenLimit_eq, Int.natAbs_natCast, Nat.not_le] at hlong
  exact hlong.2.1

/-- What is found can be reported if none of the records is nested too deeply. -/
theorem writable_foundData_iff (hfound : ∀ r ∈ found, Json.IsData (.dict r))
    (hcount : found.length ≤ total) :
    Json.height (foundData found total) ≤ Report.heightLimit ∧
        Json.hasLongNumber (foundData found total) = false ↔
      (∀ r ∈ found, Json.height (.dict r) + 2 ≤ Report.heightLimit) ∧ total < 10 ^ digitLimit := by
  rw [height_foundData_le_iff]
  constructor
  · exact fun ⟨hheight, hlong⟩ => ⟨hheight, lt_of_hasLongNumber_foundData hlong⟩
  · exact fun ⟨hheight, htotal⟩ =>
      ⟨hheight, (isData_foundData hfound hcount htotal).hasLongNumber_eq_false⟩

theorem nulled_foundData :
    Json.nulled (foundData found total) = foundData (found.map Json.nulledEntries) total := by
  have hrecords : Json.nulledAll (found.map .dict) = (found.map Json.nulledEntries).map .dict := by
    rw [Json.nulledAll_eq_map, List.map_map, List.map_map]
    rfl
  rw [foundData, foundData, List.length_map, ← hrecords]
  rfl

end

end Command

namespace CommandLine

open Command

/-- A search for the records of an array on the standard input finds those that the filter selects
    and that have a date in the range, if one is asked for, each in its place. They are reported
    with nothing in the place of the numbers that have no form, and with their count and the number
    of all records, unless one of them is nested too deeply. -/
theorem run_find_of_array {s : Surroundings} {args : List Text} {mode : Mode} {q : Query}
    (hargs : CommandLine.read s.files args = .ok (.run mode (.find q))) (hform : mode.form = .json)
    {text : Text} (hfilter : q.filter = some text) (hpreset : q.preset = none)
    (hsource : q.source = ['-'])
    {input : Text} (hinput : decode? s.input = some input)
    {records : List Record} (hrecords : Json.Spells input (.list (records.map .dict)))
    {configPath : Option Text} (hpath : settingsPath s mode = .ok configPath)
    {aliases : AliasTable} {lines : List LogLine}
    (hsettings : Settings.load s.files configPath = .ok (aliases, lines))
    {f : Filter} (hparse : Filter.parse aliases text (logicOf q) = .ok f)
    {range : Option DateRange} (hrange : AsksFor s q range)
    {test : RecordTest} (hcompile : f.compile = .ok test)
    {holds : Record → Bool} (hholds : ∀ r ∈ records, f.holds r = .ok (holds r)) :
    let found := foundRecords s.now holds range records
    ∃ p warnings, CommandLine.run s args = .printed p ∧
      ((∀ r ∈ found, Json.height (.dict r) + 2 ≤ Report.heightLimit) ∧
          records.length < 10 ^ digitLimit →
        p.exit = (if q.check && found.isEmpty then 1 else 0) ∧
          Json.read p.output = .ok (successReport "match".toList configPath warnings
            { data := foundData (found.map Json.nulledEntries) records.length }).described) ∧
      (¬ ((∀ r ∈ found, Json.height (.dict r) + 2 ≤ Report.heightLimit) ∧
          records.length < 10 ^ digitLimit) →
        ∃ fault : Fault, p.Tells
          (failureReport "match".toList configPath warnings (s.unexpected fault.cause)) 1) := by
  intro found
  have hdata : ∀ r ∈ found, Json.IsData (.dict r) := by
    intro r hr
    have hitems := Json.isData_of_read hrecords.read_eq
    cases hitems with
    | plain hv => cases hv
    | list hitems => exact hitems _ (List.mem_map_of_mem (List.mem_of_mem_filter hr))
  have hcount : found.length ≤ records.length := List.length_filter_le _ _
  have hsourced : Records.readSource s q.source = .ok records := by
    rw [hsource]
    exact Records.readSource_of_array hinput hrecords.read_eq
  have hyields := yields_findTask hfilter hpreset hrange hsettings hparse hsourced hcompile hholds
  rcases hperform : (findTask s configPath q).perform with ⟨result, notes⟩
  obtain rfl : result = .ok (foundOutcome q found records.length) :=
    (congrArg Prod.fst hperform).symm.trans (hyields {})
  have hrun : ∀ {p : Printed}, printed s mode configPath "match".toList
      (.ok (foundOutcome q found records.length)) notes = .ok p →
        CommandLine.run s args = .printed p := by
    intro p hprinted
    have hcommand : (Command.find q).run s mode = .ok p :=
      (runTask_eq hpath hperform).trans hprinted
    rw [CommandLine.run, hargs]
    simp only [hcommand]
  have hwritable := writable_foundData_iff hdata hcount
  cases hfault : (successReport "match".toList configPath notes.warnings
      (foundOutcome q found records.length)).writeFault? with
  | none =>
    obtain ⟨p, hprinted, htells⟩ := exists_printed (s := s) hform hfault
    have hdone := hwritable.mp (writeFault?_successReport.mp hfault)
    refine ⟨p, notes.warnings, hrun hprinted, fun _ => ⟨htells.exit_eq, ?_⟩, absurd hdone⟩
    have hread : Json.read (successReport "match".toList configPath notes.warnings
        (foundOutcome q found records.length)).line = _ :=
      Report.read_line rfl rfl (isData_foundData hdata hcount hdone.2)
        (height_foundData_le_iff.mpr hdone.1)
    rw [htells.output_eq, ← nulled_foundData]
    exact hread
  | some fault =>
    obtain ⟨p, hprinted, htells⟩ := exists_printed_of_fault (s := s) hform hfault
    refine ⟨p, notes.warnings, hrun hprinted, fun hdone => ?_, fun _ => ⟨fault, htells⟩⟩
    rw [writeFault?_successReport.mpr (hwritable.mpr hdone)] at hfault
    cases hfault

/-- Of two records one has a date in January, and it is found. -/
theorem run_find_of_january :
    let first : Record :=
      [("User".toList, .text "ann".toList), ("SubmitTime".toList, .text "2024-01-05".toList)]
    let second : Record := [("User".toList, .text "ann".toList)]
    let records : List Record := [first, second]
    let input := String.ofList (Json.write (.list (records.map .dict)) ++ ['\n'])
    let s : Surroundings :=
      { now := ⟨0, by decide⟩, environment := [], homeOf := fun _ => none,
        files := fun _ => .missing, input := input.toUTF8, screen := 80, word := fun _ => [] }
    let args := ["--json", "match", "user=ann", "--check", "--since", "2024-01-01..2024-01-31"]
    ∃ p warnings, CommandLine.run s (args.map String.toList) = .printed p ∧ p.exit = 0 ∧
      Json.read p.output = .ok (successReport "match".toList none warnings
        { data := foundData [first] 2 }).described := by
  intro first second records input s args
  let mode : Mode := { form := .json }
  let q : Query :=
    { filter := some "user=ann".toList, check := true,
      since := some "2024-01-01..2024-01-31".toList }
  let f : Filter := { expressions := [⟨"User".toList, .equals, .text "ann".toList, .string⟩] }
  let january : DateRange := ⟨⟨⟨63839664000000000, by decide⟩, ⟨63842256000000000, by decide⟩⟩,
    some "SubmitTime".toList⟩
  have hinput : decode? s.input = some input.toList := by
    rw [decode?, String.fromUTF8?]
    exact congrArg (Option.map String.toList) (dif_pos input.isValidUTF8)
  have hrecords : Json.Spells input.toList (.list (records.map .dict)) := by
    rw [String.toList_ofList]
    refine ⟨Json.read_write_line (.list ?_) (by decide), by decide⟩
    refine List.forall_mem_cons.mpr ⟨?_, List.forall_mem_singleton.mpr ?_⟩
    · refine .dict (by decide : (["User", "SubmitTime"].map String.toList).Nodup) ?_
      exact List.forall_mem_cons.mpr ⟨.text _, List.forall_mem_singleton.mpr (.text _)⟩
    · exact .dict (List.nodup_singleton _) (List.forall_mem_singleton.mpr (.text _))
  have hholds : ∀ r ∈ records, f.holds r = .ok true :=
    List.forall_mem_cons.mpr ⟨rfl, List.forall_mem_singleton.mpr rfl⟩
  have hread : DateRange.read ⟨0, by decide⟩ (some "SubmitTime".toList)
      "2024-01-01..2024-01-31".toList = .ok january := rfl
  have hrange : AsksFor s q (some january) := ⟨january, hread, rfl⟩
  have hfirst : january.selects s.now first = true := by decide +kernel
  have hsecond : january.selects s.now second = false := by decide +kernel
  have hfound : foundRecords s.now (fun _ => true) (some january) records = [first] := by
    simp [foundRecords, records, hfirst, hsecond]
  have hargs : CommandLine.read s.files (args.map String.toList) = .ok (.run mode (.find q)) := rfl
  have hparse : Filter.parse .standard "user=ann".toList (logicOf q) = .ok f := rfl
  obtain ⟨p, warnings, hrun, hdone, -⟩ := run_find_of_array (s := s) hargs rfl rfl rfl rfl hinput
    hrecords rfl rfl hparse hrange rfl hholds
  rw [hfound] at hdone
  obtain ⟨hexit, hread⟩ := hdone ⟨by decide, Nat.lt_of_lt_of_le (by decide : 2 < 10 ^ 1)
    (Nat.pow_le_pow_right (by decide) (by decide))⟩
  exact ⟨p, warnings, hrun, hexit, hread⟩

end CommandLine

end RecordFilter
