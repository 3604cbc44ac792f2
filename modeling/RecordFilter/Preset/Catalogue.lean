import RecordFilter.Preset.Basic

/-!
The presets that are there from the start.
-/

namespace RecordFilter.Preset

/-- Presets of one view, from names, descriptions and filters. -/
def ofRows (view : String) (rows : List (String × String × String)) : List Preset :=
  rows.map fun (name, description, filter) =>
    { name := name.toList, description := description.toList, view := view.toList,
      filter := filter.toList, isGlobal := view.toList = globalView }

/-- Presets for jobs. -/
def jobPresets : List Preset :=
  ofRows "jobs"
    [("My Jobs", "Show only my jobs", "user=$USER"),
     ("Running Jobs", "Show only running jobs", "state=RUNNING"),
     ("Pending Jobs", "Show only pending jobs", "state=PENDING"),
     ("Failed Jobs", "Show failed and timeout jobs", "state in (FAILED,TIMEOUT)"),
     ("GPU Jobs", "Show jobs on GPU partition", "partition=gpu"),
     ("High Priority", "Show high priority jobs", "priority>1000"),
     ("Large Memory Jobs", "Jobs requiring more than 32GB RAM", "memory>32G"),
     ("Long Running Jobs", "Jobs running longer than 4 hours", "time>4:00:00")]

/-- Presets for nodes. -/
def nodePresets : List Preset :=
  ofRows "nodes"
    [("Available Nodes", "Show idle and mixed nodes", "state in (IDLE,MIXED)"),
     ("Down Nodes", "Show down and drain nodes", "state in (DOWN,DRAIN,DRAINING)"),
     ("GPU Nodes", "Show nodes with GPU resources", "features~gpu"),
     ("High Memory", "Show nodes with >256GB memory", "memory>256000"),
     ("Compute Partition", "Show nodes in compute partition", "partition=compute"),
     ("Super High Memory", "Nodes with more than 512GB RAM", "memory>512G"),
     ("Specific Node Pattern", "Nodes matching compute node naming pattern",
      "name=~^compute[0-9]\x7b3\x7d$")]

/-- Presets for every view. -/
def globalPresets : List Preset :=
  ofRows "all"
    [("Production", "Filter for production resources", "partition=production"),
     ("Development", "Filter for development resources", "partition in (dev,debug)")]

/-- All presets that are there from the start. -/
def catalogue : List Preset :=
  jobPresets ++ nodePresets ++ globalPresets

end RecordFilter.Preset
