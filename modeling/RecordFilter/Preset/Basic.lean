import RecordFilter.Files.Environment
import RecordFilter.Filter.Basic

/-!
Presets: filters with a name, for the views in which they can be used.

A preset belongs to one view, or is global and can be used in every view. The catalogue holds the
presets that are there from the start.
-/

namespace RecordFilter

/-- A named filter. -/
structure Preset where
  name : Text
  description : Text := []
  view : Text
  filter : Text
  isGlobal : Bool := false
  deriving DecidableEq

namespace Preset

/-- The name of the view that holds the global presets. -/
def globalView : Text := "all".toList

/-- The text of the preset's filter, with references to the environment replaced if there is one. -/
def filterText (preset : Preset) (environment : Option Environment) : Text :=
  match environment with
  | some environment => environment.expand preset.filter
  | none => preset.filter

/-- The filter of the preset, with references to the environment replaced if there is one. -/
def toFilter (preset : Preset) (aliases : AliasTable) (environment : Option Environment) :
    Except ParseError Filter :=
  Filter.parse aliases (preset.filterText environment) Filter.andLogic (some preset.name)
    (if preset.description.isEmpty then none else some preset.description)

/-- The presets of a view, followed by the global ones. The global view has only those. -/
def inView (view : Text) (presets : List Preset) : List Preset :=
  let shared := presets.filter (·.isGlobal)
  if view = globalView then shared
  else presets.filter (fun p => p.view = view && !p.isGlobal) ++ shared

/-- The first preset of a name, without regard to case, among those of a view. In the global view
    all presets are searched. -/
def find? (name view : Text) (presets : List Preset) : Option Preset :=
  let wanted := Text.lower name
  let candidates := if view = globalView then presets else inView view presets
  candidates.find? fun p => Text.lower p.name = wanted

end Preset

end RecordFilter
