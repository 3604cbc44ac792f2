import RecordFilter.Screen.Color

/-!
Styles of text as words name them: attributes that are on or off, colours of the text and of its
ground, and a link.

Every style has one wording. Words that name it in another order, or by short names, have the same
wording, so tags that belong together can be told from their texts.
-/

namespace RecordFilter.Screen

/-- The names of the attributes, in the order of the wording. -/
def attributeNames : List Text :=
  ["bold", "dim", "italic", "underline", "blink", "blink2", "reverse", "conceal", "strike",
   "underline2", "frame", "encircle", "overline"].map String.toList

/-- The short names of attributes. -/
def shortAttributeNames : List (Text × Text) :=
  [("b", "bold"), ("d", "dim"), ("i", "italic"), ("u", "underline"), ("uu", "underline2"),
   ("r", "reverse"), ("c", "conceal"), ("s", "strike"), ("o", "overline")].map fun (short, long) =>
    (short.toList, long.toList)

/-- The attribute that a word names. -/
def attribute? (word : Text) : Option Text :=
  (shortAttributeNames.lookup word).or (attributeNames.find? (· = word))

/-- A style of text. -/
structure Style where
  /-- The attributes that are set, on or off. What is set last stands first and counts. -/
  attributes : List (Text × Bool) := []
  color : Option Text := none
  ground : Option Text := none
  link : Option Text := none
  deriving DecidableEq

namespace Style

/-- The wording of a style. -/
def text (s : Style) : Text :=
  let attributes := attributeNames.flatMap fun name =>
    match s.attributes.lookup name with
    | none => []
    | some true => [name]
    | some false => ["not".toList, name]
  let words := attributes ++ s.color.toList ++
    s.ground.toList.flatMap (fun color => ["on".toList, color]) ++
    s.link.toList.flatMap (fun link => ["link".toList, link])
  if words.isEmpty then "none".toList else Text.join [' '] words

/-- Adds what words name to a style. -/
def addWords (s : Style) : List Text → Except StyleFault Style
  | [] => .ok s
  | word :: rest =>
    let name := Text.lower word
    if name = "on".toList then
      match rest with
      | [] => .error .unknownWord
      | next :: rest => do addWords { s with ground := some (← colorOf next) } rest
    else if name = "not".toList then
      match rest with
      | [] => .error .unknownWord
      | next :: rest =>
        match attribute? next with
        | none => .error .unknownWord
        | some known => addWords { s with attributes := (known, false) :: s.attributes } rest
    else if name = "link".toList then
      match rest with
      | [] => .error .unknownWord
      | next :: rest => addWords { s with link := some next } rest
    else
      match attribute? name with
      | some known => addWords { s with attributes := (known, true) :: s.attributes } rest
      | none => do addWords { s with color := some (← colorOf name) } rest

/-- The style that a text names. -/
def read (text : Text) : Except StyleFault Style :=
  if Text.trim text = "none".toList then .ok {} else addWords {} (Text.words text)

end Style

/-- The name by which opening and closing tags are compared: the wording of the style that a tag
    names, or else what the tag says in small letters. -/
def tagName (text : Text) : Except StyleFault Text :=
  match Style.read text with
  | .ok style => .ok style.text
  | .error .unknownWord => .ok (Text.lower (Text.trim text))
  | .error .noShare => .error .noShare

end RecordFilter.Screen
