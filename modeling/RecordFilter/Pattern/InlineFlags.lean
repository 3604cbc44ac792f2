import RecordFilter.Pattern.Source
import RecordFilter.Text.Alphanumeric

/-!
Flags written in a pattern, as in `(?i)` for the whole pattern or `(?i-m:...)` for one group.
-/

namespace RecordFilter.Pattern

/-- The flag of a letter. The letter `L` is known, though no text can have it. -/
def flagOf? : Char → Option Flags
  | 'i' => some { ignoreCase := true }
  | 'm' => some { lines := true }
  | 's' => some { dotAll := true }
  | 'x' => some { verbose := true }
  | 'a' => some { plainOnly := true }
  | 'u' => some { unicode := true }
  | 't' => some { template := true }
  | 'L' => some {}
  | _ => none

/-- The flag of a token. -/
def flagToken? : Text → Option (Char × Flags)
  | [c] => (flagOf? c).map (c, ·)
  | _ => none

/-- Whether a letter chooses the scripts of a pattern. -/
def isScriptFlag (c : Char) : Bool :=
  c = 'a' || c = 'u' || c = 'L'

namespace Reader

/-- Takes a token that has to be a flag or one of `ends`; `missing` is the wording if it is
    neither. -/
def takeFlag (ends : Text) (missing : String) : Reader Text := do
  match ← take with
  | none => fail missing.toList 0
  | some token =>
    if (token.length = 1 && token.all ends.contains) || (flagToken? token).isSome then return token
    else if token.all Text.isLetter then fail "unknown flag".toList token.length
    else fail missing.toList token.length

/-- Reads the flags that are set, from the token `token` on, up to the sign that ends them. -/
def readSetFlags : Nat → Flags → Text → Reader (Flags × Text)
  | 0, flags, token => return (flags, token)
  | fuel + 1, flags, token => do
    match flagToken? token with
    | none => return (flags, token)
    | some (c, flag) =>
      if c = 'L' then
        fail "bad inline flags: cannot use 'L' flag with a str pattern".toList 0
      else
        let flags := flags.union flag
        if flags.plainOnly && flags.unicode && isScriptFlag c then
          fail "bad inline flags: flags 'a', 'u' and 'L' are incompatible".toList 0
        else readSetFlags fuel flags (← takeFlag ")-:".toList "missing -, : or )")

/-- Reads the flags that are cleared, from the token `token` on, up to a colon. -/
def readClearedFlags : Nat → Flags → Text → Reader Flags
  | 0, flags, _ => return flags
  | fuel + 1, flags, token => do
    match flagToken? token with
    | none => return flags
    | some (c, flag) =>
      if isScriptFlag c then
        fail "bad inline flags: cannot turn off flags 'a', 'u' and 'L'".toList 0
      else readClearedFlags fuel (flags.union flag) (← takeFlag [':'] "missing :")

/-- Reads flags from the token `token` on. Without a result they hold for the whole pattern, and
    otherwise they are set and cleared for a group whose content follows. -/
def readFlags (token : Text) : Reader (Option (Flags × Flags)) := do
  let fuel := (← get).size + 1
  let (add, stop) ← if token = ['-'] then pure ({}, token) else readSetFlags fuel {} token
  if stop = [')'] then
    modify fun s => { s with flags := s.flags.union add }
    return none
  else if add.template then fail "bad inline flags: cannot turn on global flag".toList 1
  else
    let del ← if stop = ['-'] then
        readClearedFlags fuel {} (← takeFlag [] "missing flag")
      else pure {}
    if del.template then fail "bad inline flags: cannot turn off global flag".toList 1
    else if add.inter del ≠ {} then fail "bad inline flags: flag turned on and off".toList 1
    else return some (add, del)

end Reader

end RecordFilter.Pattern
