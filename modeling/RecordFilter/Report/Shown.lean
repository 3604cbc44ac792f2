import RecordFilter.Value.Display

/-!
Values as tables show them: a cell has the text of a plain value, a list of plain values as they
are, and of other lists and of objects only the number of their parts.
-/

namespace RecordFilter

/-- Digits in groups of three, counted from the last one and set off by commas. -/
def groupedFrom : Text → Text
  | [] => []
  | c :: rest =>
    if rest.length % 3 = 0 && !rest.isEmpty then c :: ',' :: groupedFrom rest
    else c :: groupedFrom rest

/-- A written number with its whole part in groups of three digits. -/
def grouped (number : Text) : Text :=
  let sign := number.takeWhile (· = '-')
  let digits := (number.drop sign.length).takeWhile Char.isDigit
  sign ++ groupedFrom digits ++ number.drop (sign.length + digits.length)

/-- The duration in words for the days and clock form for the rest. Only the days may be
    negative. -/
def Duration.worded (d : Duration) : Text :=
  let days := d.micros / microsPerDay
  let rest := (d.micros % microsPerDay).toNat
  let seconds := rest / 1000000
  (if days = 0 then []
    else Text.ofInt days ++ (if days.natAbs = 1 then " day, " else " days, ").toList) ++
    Text.ofNat (seconds / 3600) ++ ':' :: twoDigits (seconds % 3600 / 60) ++
    ':' :: twoDigits (seconds % 60) ++
    if rest % 1000000 = 0 then [] else '.' :: Text.padStart 6 '0' (Text.ofNat (rest % 1000000))

namespace Value

/-- The text of a value outside of lists and objects. -/
def shown : Value → Except Fault Text
  | null => .ok "None".toList
  | boolean b => .ok (if b then "True" else "False").toList
  | size n => integerText n
  | duration d => .ok d.worded
  | date d => .ok d.text
  | moment m => .ok m.text
  | text t => .ok t
  | value => value.denoted

/-- Whether a cell shows the value as an item of a list. -/
def isPlain : Value → Bool
  | boolean _ | integer _ | size _ | float _ | text _ => true
  | _ => false

/-- What a cell shows of a number of parts. -/
def partCount (what : String) (count : Nat) (parts : String) : Text :=
  what.toList ++ " (".toList ++ grouped (Text.ofNat count) ++ ' ' :: parts.toList ++ [')']

/-- The text of a cell. -/
def cellText : Value → Except Fault Text
  | null => .ok []
  | boolean b => .ok (if b then "true" else "false").toList
  | list items =>
    if items.all isPlain then (items.mapM shown).map (Text.join ", ".toList)
    else .ok (partCount "list" items.length "items")
  | dict entries => .ok (partCount "object" entries.length "keys")
  | value => value.shown

end Value

end RecordFilter
