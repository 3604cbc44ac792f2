import RecordFilter.Command.Run
import RecordFilter.Proofs.Command.Tasks

/-!
Failures of the commands: the details of each of them can be written in a report.
-/

namespace RecordFilter

/-- The details of the failure can be written, if it has any. -/
def Failure.IsWritable (failure : Failure) : Prop :=
  ∀ details, failure.info.details = some details →
    Json.heightOfEntries details ≤ Report.heightLimit ∧ Json.anyLongMember details = false

theorem Failure.isWritable_of_details_eq_none {failure : Failure}
    (hdetails : failure.info.details = none) : failure.IsWritable := by
  intro details hsome
  rw [hdetails] at hsome
  cases hsome

theorem Failure.isWritable_filter (e : ParseError) : (Failure.filter e).IsWritable := by
  intro details hdetails
  cases hdetails
  cases e.clause <;>
    exact ⟨by simp [Json.heightOfEntries, Json.height, Value.ofText?, Report.heightLimit], rfl⟩

theorem Surroundings.isWritable_unexpected (s : Surroundings) (cause : Cause) :
    (s.unexpected cause).IsWritable :=
  Failure.isWritable_of_details_eq_none rfl

theorem Surroundings.isWritable_fileFailure (s : Surroundings) (fault : FileFault) :
    (s.fileFailure fault).IsWritable := by
  apply Failure.isWritable_of_details_eq_none
  cases fault <;> rfl

theorem Records.isWritable_failure (s : Surroundings) (source : Text) (fault : RecordsFault) :
    (failure s source fault).IsWritable := by
  apply Failure.isWritable_of_details_eq_none
  cases fault <;> rfl

namespace Command

theorem isWritable_rangeFailure (s : Surroundings) (e : DateError) :
    (rangeFailure s e).IsWritable := by
  apply Failure.isWritable_of_details_eq_none
  rw [rangeFailure]
  split <;> rfl

section

variable (s : Surroundings) (configPath : Option Text) (aliases : AliasTable)

theorem failsIn_readFilter (text logic : Text) :
    (readFilter aliases text logic).FailsIn Failure.IsWritable :=
  (Task.failsIn_ofExcept Failure.isWritable_filter).bind fun _ =>
    (Task.failsIn_log _).bind fun _ =>
      Task.failsIn_pure _

theorem failsIn_readPreset (environment : Option Environment) (preset : Preset) :
    (readPreset aliases environment preset).FailsIn Failure.IsWritable :=
  (Task.failsIn_ofExcept Failure.isWritable_filter).bind fun _ =>
    (Task.failsIn_log _).bind fun _ =>
      Task.failsIn_pure _

theorem failsIn_readAliases : (readAliases s configPath).FailsIn Failure.IsWritable :=
  (Task.failsIn_ofExcept s.isWritable_fileFailure).bind fun _ =>
    (Task.failsIn_log _).bind fun _ =>
      Task.failsIn_pure _

theorem failsIn_warnOf (e : Expression) : (warnOf s aliases e).FailsIn Failure.IsWritable := by
  refine Task.FailsIn.warn_if ?_
  split
  · exact Task.failsIn_pure _
  · exact (Task.failsIn_ofExcept fun _ => s.isWritable_unexpected _).bind fun _ =>
      Task.failsIn_warn _

theorem failsIn_parseTask (text : Text) (isAny : Bool) :
    (parseTask s configPath text isAny).FailsIn Failure.IsWritable :=
  (failsIn_readAliases s configPath).bind fun aliases =>
    (failsIn_readFilter aliases text _).bind fun _ =>
      (Task.failsIn_forM fun e => failsIn_warnOf s aliases e).bind fun _ =>
        (Task.failsIn_ofExcept fun _ => s.isWritable_unexpected _).bind fun _ =>
          Task.failsIn_pure _

theorem failsIn_coerceTask (text : Text) : (coerceTask s text).FailsIn Failure.IsWritable :=
  (Task.failsIn_ofExcept fun _ => s.isWritable_unexpected _).bind fun _ =>
    Task.failsIn_pure _

theorem failsIn_listPreset (preset : Preset) :
    (listPreset aliases preset).FailsIn Failure.IsWritable := by
  unfold listPreset
  split
  · exact (Task.failsIn_log _).bind fun _ =>
      Task.failsIn_pure _
  · exact (Task.failsIn_warn _).bind fun _ =>
      Task.failsIn_pure _

theorem failsIn_presetsTask (view file : Option Text) :
    (presetsTask s configPath view file).FailsIn Failure.IsWritable := by
  have hrest : ∀ presets : List Preset, Task.FailsIn (do
      let aliases ← readAliases s configPath
      let rows ← presets.mapM (listPreset aliases)
      return ({ data := .list rows, columns := some presetColumns } : Outcome))
        Failure.IsWritable := fun presets =>
    (failsIn_readAliases s configPath).bind fun aliases =>
      (Task.failsIn_mapM (failsIn_listPreset aliases)).bind fun _ => Task.failsIn_pure _
  cases file with
  | none => exact (Task.failsIn_pure _).bind fun _ => hrest _
  | some path => exact (Task.failsIn_ofExcept s.isWritable_fileFailure).bind fun _ => hrest _

theorem failsIn_rangeOf (q : Query) : (rangeOf s q).FailsIn Failure.IsWritable := by
  unfold rangeOf
  split
  · exact Task.failsIn_pure _
  · refine (Task.failsIn_ofExcept (isWritable_rangeFailure s)).bind fun range => ?_
    exact (Task.failsIn_pure (some range)).warn_if

theorem failsIn_filterOf (q : Query) : (filterOf s aliases q).FailsIn Failure.IsWritable := by
  unfold filterOf
  cases q.preset with
  | none => exact (failsIn_readFilter aliases _ _).bind fun _ => Task.failsIn_pure _
  | some name =>
    cases hfound : Preset.find? name Preset.globalView Preset.catalogue with
    | none =>
      simp only [hfound]
      exact (Task.failsIn_throw (Failure.isWritable_of_details_eq_none rfl)).bind fun _ =>
        Task.failsIn_pure _
    | some preset =>
      simp only [hfound]
      exact (failsIn_readPreset aliases _ _).bind fun _ => Task.failsIn_pure _

theorem failsIn_findTask (q : Query) : (findTask s configPath q).FailsIn Failure.IsWritable := by
  apply Task.FailsIn.unless (Failure.isWritable_of_details_eq_none rfl)
  apply Task.FailsIn.unless (Failure.isWritable_of_details_eq_none rfl)
  refine (failsIn_rangeOf s q).bind fun range => ?_
  refine (failsIn_readAliases s configPath).bind fun aliases => ?_
  refine (failsIn_filterOf s aliases q).bind fun filter => ?_
  refine (Task.failsIn_ofExcept (Records.isWritable_failure s q.source)).bind fun records => ?_
  refine (Task.failsIn_log _).bind fun _ => ?_
  refine (Task.failsIn_ofExcept fun _ => s.isWritable_unexpected _).bind fun found => ?_
  refine (Task.failsIn_ofExcept fun _ => s.isWritable_unexpected _).bind fun text => ?_
  refine (Task.failsIn_log _).bind fun _ => ?_
  exact (Task.failsIn_pure _).warn_if

/-- The report of every failure of a command can be written. -/
theorem failsIn_task (command : Command) :
    (command.task s configPath).FailsIn Failure.IsWritable := by
  cases command with
  | parse filter isAny => exact failsIn_parseTask s configPath filter isAny
  | find query => exact failsIn_findTask s configPath query
  | coerce text => exact failsIn_coerceTask s text
  | presets view file => exact failsIn_presetsTask s configPath view file

end

end Command

end RecordFilter
