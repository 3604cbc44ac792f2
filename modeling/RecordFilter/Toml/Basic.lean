import RecordFilter.Text.Basic

/-!
Documents of settings: tables of named items, which may be tables and arrays again.

Names with points in them lead from table to table. A path that meets an array goes on in the last
table of it.
-/

namespace RecordFilter.Toml

/-- An item of a document. Numbers and times are kept as they are written. -/
inductive Item
  | text (value : Text)
  | boolean (value : Bool)
  | number (written : Text)
  | time (written : Text)
  | array (items : List Item)
  | table (entries : List (Text × Item))

/-- The entries of a table, each name once. -/
abbrev Table := List (Text × Item)

/-- The names that lead to an item. -/
abbrev Path := List Text

/-- Why a text is not read. -/
inductive TomlError
  /-- The text breaks the rules of the format. -/
  | malformed
  /-- An integer has more digits than are converted. -/
  | tooManyDigits
  /-- Arrays and tables are nested too deeply. -/
  | nestedTooDeeply
  deriving DecidableEq

/-- The entries with one of them replaced, or with a new one at the end. -/
def put (name : Text) (item : Item) : Table → Table
  | [] => [(name, item)]
  | entry :: entries =>
    if entry.1 = name then (name, item) :: entries else entry :: put name item entries

/-- Changes the table at the end of a path. Tables that are missing on the way are made, and `lists`
    says whether the way may lead through arrays. -/
def atPath (lists : Bool) (change : Table → Option Table) : Path → Table → Option Table
  | [], table => change table
  | name :: path, table =>
    match table.lookup name with
    | none => do return put name (.table (← atPath lists change path [])) table
    | some (.table inner) => do return put name (.table (← atPath lists change path inner)) table
    | some (.array items) =>
      match items.getLast? with
      | some (.table inner) =>
        if lists then do
          let inner ← atPath lists change path inner
          return put name (.array (items.dropLast ++ [.table inner])) table
        else none
      | _ => none
    | some _ => none

/-- The table with a new entry, which must not be there yet. -/
def add (name : Text) (item : Item) (table : Table) : Option Table :=
  if (table.lookup name).isSome then none else some (put name item table)

/-- The table with an empty table at the end of the array of a name. -/
def addTable (name : Text) (table : Table) : Option Table :=
  match table.lookup name with
  | none => some (put name (.array [.table []]) table)
  | some (.array items) => some (put name (.array (items ++ [.table []])) table)
  | some _ => none

/-- What may no longer be changed in a document. -/
structure Marks where
  /-- The tables with a header of their own. -/
  declared : List Path := []
  /-- The arrays and tables that were written as values, with all that is in them. -/
  frozen : List Path := []
  /-- The tables that are to be taken for declared from the next header on. -/
  pending : List Path := []

namespace Marks

/-- Whether a table has been declared. -/
def isDeclared (marks : Marks) (path : Path) : Bool :=
  marks.declared.contains path

/-- Whether a path leads into a value. -/
def isFrozen (marks : Marks) (path : Path) : Bool :=
  !path.isEmpty && marks.frozen.any (·.isPrefixOf path)

/-- The marks when a header begins. -/
def settle (marks : Marks) : Marks :=
  { marks with declared := marks.declared ++ marks.pending, pending := [] }

/-- The marks without those at a path or beyond it. -/
def clear (marks : Marks) (path : Path) : Marks :=
  { marks with
    declared := marks.declared.filter fun p => !path.isPrefixOf p
    frozen := marks.frozen.filter fun p => !path.isPrefixOf p }

/-- The marks with a table declared. -/
def declare (marks : Marks) (path : Path) : Marks :=
  { marks with declared := path :: marks.declared }

/-- The marks with a value written at a path. -/
def freeze (marks : Marks) (path : Path) : Marks :=
  { marks with frozen := path :: marks.frozen }

end Marks

end RecordFilter.Toml
