import Assay.Pattern.Reader
import Assay.Text.Alphabet

/-!
Flags inside a pattern: letters that turn modes on or off, for a group or for the whole pattern.
-/

namespace Assay.Pattern
open Text

/-- The mode that a flag letter turns on. The letter of the locale mode is known, although no
pattern may use it. -/
def flagMode? (c : Char)
    : Option Mode :=
  match c with
  | 'i' => some { caseless := true }
  | 'm' => some { multiline := true }
  | 's' => some { dotAll := true }
  | 'x' => some { verbose := true }
  | 'a' => some { ascii := true }
  | 'u' => some { unicode := true }
  | 't' => some { template := true }
  | 'L' => some {}
  | _ => none

/-- Whether a flag letter chooses what the categories hold. -/
def isCategoryFlag (c : Char)
    : Bool :=
  c = 'a' || c = 'u' || c = 'L'

/-- A token that stands for a flag. -/
def Token.flag?
    : Token → Option (Char × Mode)
  | .plain c => (flagMode? c).map (c, ·)
  | .escaped _ => none

/-- Whether a token is a letter. -/
def Token.isLetter
    : Token → Bool
  | .plain c => Text.isLetter c
  | .escaped _ => false

namespace Reader

/-- Refuses a token in the place of a flag, for which `otherwise` is missing. -/
def refuseFlag {α : Type} (token : Token) (otherwise : String)
    : Reader α :=
  refuse (if token.isLetter then .unknownFlag else .missing otherwise) token.chars.length

/-- Takes the flags to turn on, the first of which is `token`; the last token taken ends them. -/
def takeOn (on : Mode) (token : Token)
    : Nat → Reader (Mode × Char)
  | 0 => refuse (.missing "-, : or )")
  | fuel + 1 => do
      match token.flag? with
      | none => refuseFlag token "-, : or )"
      | some (c, mode) =>
          if c = 'L' then refuse .localeFlag
          let on := on.union mode
          if on.ascii && on.unicode then refuse .incompatibleFlags
          match ← take with
          | none => refuse (.missing "-, : or )")
          | some (.plain ')') => return (on, ')')
          | some (.plain '-') => return (on, '-')
          | some (.plain ':') => return (on, ':')
          | some next => takeOn on next fuel

/-- Takes the flags to turn off, the first of which is `token`, up to the colon that ends them. -/
def takeOff (off : Mode) (token : Token)
    : Nat → Reader Mode
  | 0 => refuse (.missing ":")
  | fuel + 1 => do
      match token.flag? with
      | none => refuseFlag token ":"
      | some (c, mode) =>
          if isCategoryFlag c then refuse .categoryFlagOff
          let off := off.union mode
          match ← take with
          | none => refuse (.missing ":")
          | some (.plain ':') => return off
          | some next => takeOff off next fuel

/-- Takes flags, the first token of which is `token`: the modes to turn on and off in a group, or
nothing, when they have been turned on for the whole pattern. -/
def takeFlags (token : Token)
    : Reader (Option (Mode × Mode)) := do
  let fuel := (← read).size + 1
  let (on, last) ← if token = .plain '-' then pure ({}, '-') else takeOn {} token fuel
  if last = ')' then
    modify fun reading => { reading with mode := reading.mode.union on }
    return none
  if on.template then refuse .globalFlagOn 1
  if last = ':' then return some (on, {})
  match ← take with
  | none => refuse (.missing "flag")
  | some token =>
      if token.flag?.isNone then refuseFlag token "flag"
      let off ← takeOff {} token fuel
      if off.template then refuse .globalFlagOff 1
      if on.overlaps off then refuse .flagOnAndOff 1
      return some (on, off)

end Reader

end Assay.Pattern
