import RecordFilter.Command.Coerce
import RecordFilter.Command.Find
import RecordFilter.Command.Parse
import RecordFilter.Command.Presets

/-!
What comes of tasks: the result that a task has whatever was left before it, the warnings that it
leaves, and the kinds of failures that it can end in. Each is told of a row of steps by telling it of
each step.
-/

namespace RecordFilter

namespace Task

variable {α β ε : Type} {task : Task α} {f : α → Task β} {a : α} {b : β} {P : Failure → Prop}

/-- What comes of a task after some notes. -/
def after (task : Task α) (notes : Notes) : Except Failure α × Notes :=
  (ExceptT.run task).run notes

theorem after_bind (task : Task α) (f : α → Task β) (notes : Notes) :
    after (task >>= f) notes =
      match after task notes with
      | (.ok a, notes) => after (f a) notes
      | (.error failure, notes) => (.error failure, notes) := by
  have hrun : (ExceptT.run task).run notes = after task notes := rfl
  rw [after, ExceptT.run_bind, StateT.run_bind, hrun]
  rcases after task notes with ⟨result | result, notes⟩ <;> rfl

/-- The task has the result, whatever has been left before. -/
def Yields (task : Task α) (a : α) : Prop :=
  ∀ notes, (after task notes).1 = .ok a

theorem yields_pure (a : α) : Yields (pure a) a :=
  fun _ => rfl

theorem yields_warn (message : Text) : Yields (warn message) () :=
  fun _ => rfl

theorem yields_log (lines : List LogLine) : Yields (log lines) () :=
  fun _ => rfl

theorem yields_ofExcept {failure : ε → Failure} {x : Except ε α} (hx : x = .ok a) :
    Yields (ofExcept failure x) a := by
  subst hx
  exact yields_pure a

theorem Yields.bind (htask : Yields task a) (hf : Yields (f a) b) : Yields (task >>= f) b := by
  intro notes
  have hfirst := htask notes
  rcases hafter : after task notes with ⟨result, left⟩
  rw [hafter] at hfirst
  cases hfirst
  rw [after_bind, hafter]
  exact hf left

/-- A task that refuses to go on in some case has its result in the other one. -/
theorem Yields.unless {c : Prop} [Decidable c] {failure : Failure} (hc : ¬ c)
    (htask : Yields task a) : Yields (if c then do throw failure; task else task) a := by
  rw [if_neg hc]
  exact htask

/-- A warning in some case changes nothing of what follows. -/
theorem Yields.warn_if {c : Prop} [Decidable c] {message : Text} (htask : Yields task a) :
    Yields (if c then do warn message; task else task) a := by
  split
  · exact (yields_warn message).bind htask
  · exact htask

section

variable {warnings more : List Text}

/-- The task has the result and leaves the warnings behind those that have been left before. -/
def Leaves (task : Task α) (a : α) (warnings : List Text) : Prop :=
  ∀ notes, (after task notes).1 = .ok a ∧
    (after task notes).2.warnings = notes.warnings ++ warnings

theorem leaves_pure (a : α) : Leaves (pure a) a [] :=
  fun notes => ⟨rfl, (List.append_nil notes.warnings).symm⟩

theorem leaves_warn (message : Text) : Leaves (warn message) () [message] :=
  fun _ => ⟨rfl, rfl⟩

theorem leaves_log (lines : List LogLine) : Leaves (log lines) () [] :=
  fun notes => ⟨rfl, (List.append_nil notes.warnings).symm⟩

theorem leaves_ofExcept {failure : ε → Failure} {x : Except ε α} (hx : x = .ok a) :
    Leaves (ofExcept failure x) a [] := by
  subst hx
  exact leaves_pure a

theorem Leaves.bind (htask : Leaves task a warnings) (hf : Leaves (f a) b more) :
    Leaves (task >>= f) b (warnings ++ more) := by
  intro notes
  obtain ⟨hfirst, hwarnings⟩ := htask notes
  rcases hafter : after task notes with ⟨result, left⟩
  rw [hafter] at hfirst hwarnings
  cases hfirst
  rw [after_bind, hafter]
  obtain ⟨hresult, hmore⟩ := hf left
  exact ⟨hresult, by rw [hmore, hwarnings, List.append_assoc]⟩

/-- A step that leaves no warnings. -/
theorem Leaves.bind_silent (htask : Leaves task a []) (hf : Leaves (f a) b more) :
    Leaves (task >>= f) b more :=
  htask.bind hf

theorem Leaves.warn_if {c : Prop} [Decidable c] {message : Text} (htask : Leaves task a warnings) :
    Leaves (if c then do warn message; task else task) a
      ((if c then [message] else []) ++ warnings) := by
  split
  · exact (leaves_warn message).bind htask
  · exact htask

theorem Leaves.yields (htask : Leaves task a warnings) : Yields task a :=
  fun notes => (htask notes).1

/-- A row of steps leaves the warnings of each step, in their order. -/
theorem leaves_forM {items : List β} {f : β → Task PUnit} {left : β → List Text}
    (hf : ∀ item ∈ items, Leaves (f item) ⟨⟩ (left item)) :
    Leaves (items.forM f) ⟨⟩ (items.flatMap left) := by
  induction items with
  | nil => exact leaves_pure _
  | cons item items ih =>
    rw [List.flatMap_cons]
    exact (hf item List.mem_cons_self).bind
      (ih fun other hother => hf other (List.mem_cons_of_mem _ hother))

end

/-- The task ends in the failure, whatever has been left before. -/
def Fails (task : Task α) (failure : Failure) : Prop :=
  ∀ notes, (after task notes).1 = .error failure

theorem fails_ofExcept {failure : ε → Failure} {x : Except ε α} {e : ε} (hx : x = .error e) :
    Fails (ofExcept failure x) (failure e) := by
  subst hx
  exact fun _ => rfl

theorem Fails.bind {failure : Failure} (htask : Fails task failure) :
    Fails (task >>= f) failure := by
  intro notes
  have hfirst := htask notes
  rcases hafter : after task notes with ⟨result, left⟩
  rw [hafter] at hfirst
  cases hfirst
  rw [after_bind, hafter]

/-- A task fails as what follows its first step does. -/
theorem Yields.bind_fails {failure : Failure} (htask : Yields task a)
    (hf : Fails (f a) failure) : Fails (task >>= f) failure := by
  intro notes
  have hfirst := htask notes
  rcases hafter : after task notes with ⟨result, left⟩
  rw [hafter] at hfirst
  cases hfirst
  rw [after_bind, hafter]
  exact hf left

theorem Fails.unless {c : Prop} [Decidable c] {refusal failure : Failure} (hc : ¬ c)
    (htask : Fails task failure) :
    Fails (if c then do throw refusal; task else task) failure := by
  rw [if_neg hc]
  exact htask

/-- Every failure of the task has the property. -/
def FailsIn (task : Task α) (P : Failure → Prop) : Prop :=
  ∀ notes failure, (after task notes).1 = .error failure → P failure

theorem failsIn_of_yields (htask : Yields task a) : FailsIn task P := by
  intro notes failure hfails
  rw [htask notes] at hfails
  cases hfails

theorem failsIn_pure (a : α) : FailsIn (pure a) P :=
  failsIn_of_yields (yields_pure a)

theorem failsIn_log (lines : List LogLine) : FailsIn (log lines) P :=
  failsIn_of_yields (yields_log lines)

theorem failsIn_warn (message : Text) : FailsIn (warn message) P :=
  failsIn_of_yields (yields_warn message)

theorem failsIn_throw {failure : Failure} (hfailure : P failure) :
    FailsIn (throw failure : Task α) P := by
  intro notes other hfails
  cases hfails
  exact hfailure

theorem failsIn_ofExcept {failure : ε → Failure} {x : Except ε α} (hfailure : ∀ e, P (failure e)) :
    FailsIn (ofExcept failure x) P := by
  cases x with
  | ok a => exact failsIn_pure a
  | error e => exact failsIn_throw (hfailure e)

theorem FailsIn.bind (htask : FailsIn task P) (hf : ∀ a, FailsIn (f a) P) :
    FailsIn (task >>= f) P := by
  intro notes failure hfails
  rcases hafter : after task notes with ⟨first | a, left⟩
  · rw [after_bind, hafter] at hfails
    have hfirst : (after task notes).1 = .error first := by rw [hafter]
    rw [← Except.error.inj hfails]
    exact htask notes first hfirst
  · rw [after_bind, hafter] at hfails
    exact hf a left failure hfails

/-- A task that refuses to go on in some case fails with the refusal, or later. -/
theorem FailsIn.unless {c : Prop} [Decidable c] {failure : Failure} (hfailure : P failure)
    (htask : FailsIn task P) :
    FailsIn (if c then do throw failure; task else task) P := by
  split
  · exact (failsIn_throw hfailure).bind fun _ => htask
  · exact htask

theorem FailsIn.warn_if {c : Prop} [Decidable c] {message : Text} (htask : FailsIn task P) :
    FailsIn (if c then do warn message; task else task) P := by
  split
  · exact (failsIn_warn message).bind fun _ => htask
  · exact htask

theorem failsIn_forM {items : List α} {f : α → Task PUnit} (hf : ∀ item, FailsIn (f item) P) :
    FailsIn (items.forM f) P := by
  induction items with
  | nil => exact failsIn_pure _
  | cons item items ih => exact FailsIn.bind (hf item) fun _ => ih

theorem failsIn_mapM {items : List α} (hf : ∀ item, FailsIn (f item) P) :
    FailsIn (items.mapM f) P := by
  induction items with
  | nil => exact failsIn_pure _
  | cons item items ih =>
    rw [List.mapM_cons]
    exact FailsIn.bind (hf item) fun _ =>
      FailsIn.bind ih fun _ => failsIn_pure _

end Task

namespace Command

variable {s : Surroundings} {configPath : Option Text} {aliases : AliasTable}
  {lines : List LogLine} {text logic : Text} {f : Filter}

theorem leaves_readAliases (hsettings : Settings.load s.files configPath = .ok (aliases, lines)) :
    (readAliases s configPath).Leaves aliases [] :=
  (Task.leaves_ofExcept hsettings).bind_silent
    ((Task.leaves_log lines).bind_silent (Task.leaves_pure aliases))

theorem leaves_readFilter (hparse : Filter.parse aliases text logic = .ok f) :
    (readFilter aliases text logic).Leaves f [] :=
  (Task.leaves_ofExcept hparse).bind_silent
    ((Task.leaves_log _).bind_silent (Task.leaves_pure f))

end Command

end RecordFilter
