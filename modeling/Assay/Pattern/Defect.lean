import Assay.Fault
import Assay.Text.Quoted

/-!
What can be wrong with the text of a pattern, and how it is said.
-/

namespace Assay.Pattern
open Text

/-- What is wrong with the text of a pattern. -/
inductive Defect where
  | danglingEscape
  | badEscape (escape : String)
  | incompleteEscape (escape : String)
  | octalTooLarge (escape : String)
  | missing (what : String)
  | unterminatedName (terminator : Char)
  | unknownCharacterName (name : String)
  | badGroupName (name : String)
  | unknownGroupName (name : String)
  | repeatedGroupName (name : String) (number former : Nat)
  | badGroupNumber
  | invalidReference (number : Nat)
  | openGroup
  | groupOfSameLookbehind
  | unterminatedSet
  | badRange (first last : String)
  | unorderedCounts
  | nothingToRepeat
  | multipleRepeat
  | unexpectedEnd
  | unknownExtension (written : String)
  | unterminatedComment
  | unterminatedGroup
  | tooManyBranches
  | lateFlags
  | localeFlag
  | incompatibleFlags
  | unknownFlag
  | globalFlagOn
  | globalFlagOff
  | categoryFlagOff
  | flagOnAndOff
  | unbalancedParenthesis
  | variableLookbehind
  | refusedByTemplate (repetition : String)
deriving DecidableEq, Repr

/-- The wording of a defect. -/
def Defect.message
    : Defect → String
  | .danglingEscape => "bad escape (end of pattern)"
  | .badEscape escape => "bad escape " ++ escape
  | .incompleteEscape escape => "incomplete escape " ++ escape
  | .octalTooLarge escape => "octal escape value " ++ escape ++ " outside of range 0-0o377"
  | .missing what => "missing " ++ what
  | .unterminatedName terminator =>
      "missing " ++ String.singleton terminator ++ ", unterminated name"
  | .unknownCharacterName name => "undefined character name " ++ quoted name
  | .badGroupName name => "bad character in group name " ++ quoted name
  | .unknownGroupName name => "unknown group name " ++ quoted name
  | .repeatedGroupName name number former =>
      "redefinition of group name " ++ quoted name ++ " as group " ++ toString number
        ++ "; was group " ++ toString former
  | .badGroupNumber => "bad group number"
  | .invalidReference number => "invalid group reference " ++ toString number
  | .openGroup => "cannot refer to an open group"
  | .groupOfSameLookbehind =>
      "cannot refer to group defined in the same lookbehind subpattern"
  | .unterminatedSet => "unterminated character set"
  | .badRange first last => "bad character range " ++ first ++ "-" ++ last
  | .unorderedCounts => "min repeat greater than max repeat"
  | .nothingToRepeat => "nothing to repeat"
  | .multipleRepeat => "multiple repeat"
  | .unexpectedEnd => "unexpected end of pattern"
  | .unknownExtension written => "unknown extension ?" ++ written
  | .unterminatedComment => "missing ), unterminated comment"
  | .unterminatedGroup => "missing ), unterminated subpattern"
  | .tooManyBranches => "conditional backref with more than two branches"
  | .lateFlags => "global flags not at the start of the expression"
  | .localeFlag => "bad inline flags: cannot use 'L' flag with a str pattern"
  | .incompatibleFlags => "bad inline flags: flags 'a', 'u' and 'L' are incompatible"
  | .unknownFlag => "unknown flag"
  | .globalFlagOn => "bad inline flags: cannot turn on global flag"
  | .globalFlagOff => "bad inline flags: cannot turn off global flag"
  | .categoryFlagOff => "bad inline flags: cannot turn off flags 'a', 'u' and 'L'"
  | .flagOnAndOff => "bad inline flags: flag turned on and off"
  | .unbalancedParenthesis => "unbalanced parenthesis"
  | .variableLookbehind => "look-behind requires fixed-width pattern"
  | .refusedByTemplate repetition => "internal: unsupported template operator " ++ repetition

/-- Why a text is no pattern: a defect, at a place of the text if it has one, or a fault. -/
inductive Refusal where
  | malformed (defect : Defect) (position : Option Nat)
  | fault (fault : Fault)
deriving DecidableEq, Repr

/-- The place of a defect as it is said: its position, with line and column in a text of several
lines. -/
def placeText (source : List Char) (position : Nat)
    : String :=
  let before := source.take position
  let line := before.count '\n' + 1
  let column := (before.reverse.takeWhile (· != '\n')).length + 1
  " at position " ++ toString position ++
    (if source.contains '\n' then
      " (line " ++ toString line ++ ", column " ++ toString column ++ ")"
    else "")

/-- The wording of a defect with its place. -/
def defectText (source : String) (defect : Defect) (position : Option Nat)
    : String :=
  match position with
  | none => defect.message
  | some position => defect.message ++ placeText source.toList position

end Assay.Pattern
