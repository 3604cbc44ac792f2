import RecordFilter.Text.Case

/-!
Field names: which key of a record a name in a clause stands for.

Names are looked up without regard to case in a table of aliases. A name that is not in the table
stands for itself with a capital at its beginning.
-/

namespace RecordFilter

/-- Aliases of record keys, in the order in which they were first entered, each alias once. -/
structure AliasTable where
  entries : List (Text × Text)
  deriving DecidableEq

namespace AliasTable

/-- The table without aliases. -/
def empty : AliasTable := ⟨[]⟩

/-- The key that an alias stands for. -/
def find? (table : AliasTable) (name : Text) : Option Text :=
  table.entries.lookup name

/-- The entries with the key of an alias replaced, or with a new entry at the end. -/
def put (name key : Text) : List (Text × Text) → List (Text × Text)
  | [] => [(name, key)]
  | entry :: entries =>
    if entry.1 = name then (name, key) :: entries else entry :: put name key entries

/-- The table in which an alias stands for a key. An alias that is there already keeps its place. -/
def insert (table : AliasTable) (name key : Text) : AliasTable :=
  ⟨put name key table.entries⟩

/-- The table with further aliases entered in order. -/
def insertAll (table : AliasTable) (pairs : List (Text × Text)) : AliasTable :=
  pairs.foldl (fun table pair => table.insert pair.1 pair.2) table

/-- The table of some aliases, of which the last one of a name counts. -/
def ofPairs (pairs : List (Text × Text)) : AliasTable :=
  empty.insertAll pairs

/-- The table with its aliases in small letters. Of the aliases that become one, the last in the
    table counts. -/
def lowered (table : AliasTable) : AliasTable :=
  ofPairs (table.entries.map fun (name, key) => (Text.lower name, key))

/-- The table with further aliases entered, or with those instead of the ones that are there. -/
def extend (table : AliasTable) (pairs : List (Text × Text)) (replace : Bool) : AliasTable :=
  ((if replace then empty else table).insertAll pairs).lowered

/-- The aliases that are there from the start. -/
def standard : AliasTable :=
  ⟨[("name", "Name"), ("user", "User"), ("state", "State"), ("partition", "Partition"),
    ("status", "State"), ("node", "NodeList"), ("nodes", "NodeList"), ("time", "TimeUsed"),
    ("timelimit", "TimeLimit"), ("cpu", "CPUs"), ("cpus", "CPUs"), ("mem", "Memory"),
    ("memory", "Memory"), ("account", "Account"), ("qos", "QoS"), ("priority", "Priority")].map
    fun (name, key) => (name.toList, key.toList)⟩

instance : Inhabited AliasTable := ⟨standard⟩

/-- The text with the capital form of its first character. -/
def capitalized : Text → Text
  | [] => []
  | c :: rest => Text.upperChar c ++ rest

/-- The record key that a field name stands for. -/
def canonical (table : AliasTable) (field : Text) : Text :=
  let name := Text.lower field
  (table.find? name).getD (capitalized name)

end AliasTable

namespace Field

/-- The fields that hold memory sizes. -/
def memoryNames : List Text :=
  ["memory", "mem", "realmemory", "allocmem"].map String.toList

/-- The fields that hold durations. -/
def durationNames : List Text :=
  ["time", "timelimit", "timeused", "elapsed", "runtime", "walltime"].map String.toList

/-- What the names of fields with points in time contain. -/
def dateMarkers : List Text :=
  ["submittime", "starttime", "endtime", "created", "modified", "lastupdate"].map String.toList

/-- Whether a field holds a memory size, by its name. -/
def isMemory (field : Text) : Bool :=
  memoryNames.contains (Text.lower field)

/-- Whether a field holds a duration, by its name. -/
def isDuration (field : Text) : Bool :=
  durationNames.contains (Text.lower field)

/-- Whether a field holds a point in time, by its name. -/
def isDate (field : Text) : Bool :=
  let name := Text.lower field
  dateMarkers.any (Text.occursIn · name)

end Field

end RecordFilter
