import RecordFilter.Screen.EmojiTable
import RecordFilter.Text.Blank
import RecordFilter.Text.Case

/-!
Names of pictures in a text.

A name stands between two colons, and may be followed by a hyphen and a word that asks for the
picture in colours or as a character. What is between two colons and is no name stays as it is.
-/

namespace RecordFilter.Screen

/-- The picture of an entry of the table, if the entry has a name. -/
def pictureOf? (name : Text) (entry : String) : Option Text :=
  match Text.cut? ['='] entry.toList with
  | some (picture, names) => if (Text.splitOn [','] names).contains name then some picture else none
  | none => none

/-- The picture of a name. -/
def picture? (name : Text) : Option Text :=
  (emojiTable.splitOn "\n").findSome? fun line => (line.splitOn " ").findSome? (pictureOf? name)

/-- The words that ask for a form of a picture, with the sign that stands for the form. -/
def pictureForms : List (Text × Char) :=
  [("-emoji:".toList, '\ufe0f'), ("-text:".toList, '\ufe0e')]

/-- A name up to its colon: its length with all that belongs to it, the name, and the sign of its
    form. -/
def emojiName? (name : Text) : Text → Option (Nat × Text × Text)
  | [] => none
  | c :: rest =>
    match pictureForms.find? fun (word, _) => word.isPrefixOf (c :: rest) with
    | some (word, sign) => some (name.length + word.length, name, [sign])
    | none =>
      if c = ':' then some (name.length + 1, name, [])
      else if Text.isBlank c then none
      else emojiName? (name ++ [c]) rest

/-- The scan for names, with `skip` characters of the last one still to be passed over. -/
def emojisFrom : Nat → Text → Text
  | _, [] => []
  | skip + 1, _ :: rest => emojisFrom skip rest
  | 0, c :: rest =>
    if c = ':' then
      match emojiName? [] rest with
      | none => c :: emojisFrom 0 rest
      | some (length, name, sign) =>
        match picture? (Text.lower name) with
        | some picture => picture ++ sign ++ emojisFrom length rest
        | none => c :: rest.take length ++ emojisFrom length rest
    else c :: emojisFrom 0 rest

/-- The text with pictures for their names. -/
def withEmojis (text : Text) : Text :=
  emojisFrom 0 text

end RecordFilter.Screen
