import RecordFilter.Toml.Lexeme

/-!
Reading documents of settings in TOML.

A document is a row of statements, one on a line: a header opens a table, and a name with a value
adds an entry to the table that is open. What has been written as a value, and a table that has
been opened by its header, cannot be opened again.
-/

namespace RecordFilter.Toml

/-- Adds an entry to a table that is written as a value. -/
def addInline (table : Table) (frozen : List Path) (path : Path) (item : Item) :
    Except TomlError Table :=
  if ({ frozen } : Marks).isFrozen path then malformed
  else
    match path.getLast? with
    | none => malformed
    | some name =>
      match atPath false (add name item) path.dropLast table with
      | some table => .ok table
      | none => malformed

/-- Whether an item can hold others. -/
def Item.isNest : Item → Bool
  | array _ | table _ => true
  | _ => false

/-- The limit on the depth of values. -/
def depthLimit : Nat := 982

/-- How much of the depth limit an array uses up for its values. -/
def arrayCost : Nat := 2

/-- How much of the depth limit a table that is written as a value uses up for its entries. -/
def tableCost : Nat := 3

mutual

/-- Reads a value that uses up no more than `room` of the depth limit. The fuel bounds the number of
    values. -/
def readValue (room : Nat) : Nat → Text → Except TomlError (Item × Text)
  | 0, _ => malformed
  | fuel + 1, text =>
    match readText? text with
    | some step => step.map fun (t, rest) => (.text t, rest)
    | none =>
      match text with
      | '[' :: rest => do
        if room < arrayCost then throw .nestedTooDeeply
        let rest ← skipLines (rest.length + 1) rest
        let (items, rest) ← readItems (room - arrayCost) fuel [] rest
        return (.array items, rest)
      | '\x7b' :: rest =>
        match skipGaps rest with
        | '\x7d' :: rest => .ok (.table [], rest)
        | rest => do
          if room < tableCost then throw .nestedTooDeeply
          let (table, rest) ← readEntries (room - tableCost) fuel [] [] rest
          return (.table table, rest)
      | _ =>
        if "true".toList.isPrefixOf text then .ok (.boolean true, text.drop 4)
        else if "false".toList.isPrefixOf text then .ok (.boolean false, text.drop 5)
        else ((readTime? text).or ((readNumber? text).or (readNamed? text))).getD malformed

/-- Reads the values of an array up to its closing bracket, which may follow a comma. -/
def readItems (room : Nat) : Nat → List Item → Text → Except TomlError (List Item × Text)
  | 0, _, _ => malformed
  | fuel + 1, items, text =>
    match text with
    | ']' :: rest => .ok (items, rest)
    | _ => do
      let (item, rest) ← readValue room fuel text
      match ← skipLines (rest.length + 1) rest with
      | ',' :: rest => readItems room fuel (items ++ [item]) (← skipLines (rest.length + 1) rest)
      | ']' :: rest => return (items ++ [item], rest)
      | _ => malformed

/-- Reads a name and its value. -/
def readPair (room : Nat) : Nat → Text → Except TomlError ((Path × Item) × Text)
  | 0, _ => malformed
  | fuel + 1, text => do
    let (path, rest) ← readPath (text.length + 1) text
    match rest with
    | '=' :: rest =>
      let (item, rest) ← readValue room fuel (skipGaps rest)
      return ((path, item), rest)
    | _ => malformed

/-- Reads the entries of a table that is written as a value, up to its closing brace. -/
def readEntries (room : Nat) : Nat → Table → List Path → Text → Except TomlError (Table × Text)
  | 0, _, _, _ => malformed
  | fuel + 1, table, frozen, text => do
    let ((path, item), rest) ← readPair room fuel text
    let table ← addInline table frozen path item
    match skipGaps rest with
    | ',' :: rest =>
      readEntries room fuel table (if item.isNest then path :: frozen else frozen) (skipGaps rest)
    | '\x7d' :: rest => return (table, rest)
    | _ => malformed

end

/-- What has been read of a document: its entries, what is closed in it, and the open table. -/
structure Document where
  table : Table := []
  marks : Marks := {}
  header : Path := []

namespace Document

/-- The document with a change of its entries, which must be possible. -/
def change (doc : Document) (path : Path) (f : Table → Option Table) :
    Except TomlError Document :=
  match atPath true f path doc.table with
  | some table => .ok { doc with table }
  | none => malformed

/-- Opens a table. -/
def openTable (doc : Document) (path : Path) : Except TomlError Document :=
  if doc.marks.isDeclared path || doc.marks.isFrozen path then malformed
  else { doc with marks := doc.marks.declare path, header := path }.change path some

/-- Opens a new table at the end of an array of tables. -/
def openElement (doc : Document) (path : Path) : Except TomlError Document :=
  if doc.marks.isFrozen path then malformed
  else
    match path.getLast? with
    | none => malformed
    | some name =>
      { doc with marks := (doc.marks.clear path).declare path, header := path }.change
        path.dropLast (addTable name)

/-- The paths from the open table to the tables that a name with points leads through. -/
def passed (header path : Path) : List Path :=
  (List.range path.length).tail.map fun n => header ++ path.take n

/-- Adds an entry to the open table. -/
def addEntry (doc : Document) (path : Path) (item : Item) : Except TomlError Document :=
  let ways := passed doc.header path
  if ways.any doc.marks.isDeclared then malformed
  else if doc.marks.isFrozen (doc.header ++ path.dropLast) then malformed
  else
    match path.getLast? with
    | none => malformed
    | some name => do
      let doc ← doc.change (doc.header ++ path.dropLast) (add name item)
      let marks := { doc.marks with pending := doc.marks.pending ++ ways }
      return { doc with
        marks := if item.isNest then marks.freeze (doc.header ++ path) else marks }

end Document

/-- Reads a header after its first bracket. -/
def readHeader (doc : Document) (text : Text) : Except TomlError (Document × Text) := do
  let doc := { doc with marks := doc.marks.settle }
  match text with
  | '[' :: text =>
    let (path, rest) ← readPath (text.length + 1) (skipGaps text)
    let doc ← doc.openElement path
    match rest with
    | ']' :: ']' :: rest => return (doc, rest)
    | _ => malformed
  | _ =>
    let (path, rest) ← readPath (text.length + 1) (skipGaps text)
    let doc ← doc.openTable path
    match rest with
    | ']' :: rest => return (doc, rest)
    | _ => malformed

/-- Reads one statement, or nothing if a comment or the end of the line comes first. -/
def readStatement (doc : Document) (text : Text) : Except TomlError (Document × Text) :=
  match text with
  | '[' :: rest => readHeader doc rest
  | c :: _ =>
    if isBare c || c = '"' || c = '\'' then do
      let ((path, item), rest) ← readPair depthLimit (2 * text.length + 2) text
      return (← doc.addEntry path item, rest)
    else if c = '#' || c = '\n' then .ok (doc, text)
    else malformed
  | [] => .ok (doc, [])

/-- Reads statements up to the end. The fuel bounds the number of lines. -/
def readStatements : Nat → Document → Text → Except TomlError Document
  | 0, doc, _ => .ok doc
  | fuel + 1, doc, text =>
    match skipGaps text with
    | [] => .ok doc
    | text => do
      let (doc, rest) ← readStatement doc text
      match ← skipComment (skipGaps rest) with
      | [] => return doc
      | '\n' :: rest => readStatements fuel doc rest
      | _ => malformed

/-- Reads a document. A carriage return before a line feed counts as part of it. -/
def read (text : Text) : Except TomlError Table := do
  let text := Text.replaceAll ['\r', '\n'] ['\n'] text
  return (← readStatements (text.length + 1) {} text).table

end RecordFilter.Toml
