import Assay.Pattern.Reader
import Assay.Text.Digit
import Assay.Text.Name

/-!
Escapes: what a backslash and the characters after it stand for.
-/

namespace Assay.Pattern
open Text

/-- An octal digit. -/
def isOctal (c : Char)
    : Bool :=
  '0' ≤ c && c ≤ '7'

/-- A decimal digit in ASCII. -/
def isDecimal (c : Char)
    : Bool :=
  '0' ≤ c && c ≤ '9'

/-- The value of digits in a base. -/
def valueInBase (base : Nat) (cs : List Char)
    : Nat :=
  cs.foldl (fun value c => value * base + (hexValue? c).getD 0) 0

/-- The letters that stand for control characters, and the backslash itself. -/
def controlEscape? (c : Char)
    : Option Nat :=
  match c with
  | 'a' => some 7
  | 'b' => some 8
  | 'f' => some 12
  | 'n' => some 10
  | 'r' => some 13
  | 't' => some 9
  | 'v' => some 11
  | '\\' => some 92
  | _ => none

/-- The letters that stand for categories, in upper case for what is outside them. -/
def categoryEscape? (c : Char)
    : Option (Category × Bool) :=
  match c with
  | 'd' => some (.digit, false)
  | 'D' => some (.digit, true)
  | 's' => some (.space, false)
  | 'S' => some (.space, true)
  | 'w' => some (.word, false)
  | 'W' => some (.word, true)
  | _ => none

/-- The letters that stand for places in the text. -/
def anchorEscape? (c : Char)
    : Option Anchor :=
  match c with
  | 'A' => some .textStart
  | 'b' => some .boundary
  | 'B' => some .notBoundary
  | 'Z' => some .textEnd
  | _ => none

/-- The text of an escape. -/
def escapeText (cs : List Char)
    : String :=
  String.ofList ('\\' :: cs)

namespace Reader

/-- Refuses the escape of the characters `cs`, which have just been taken. -/
def refuseEscape {α : Type} (defect : String → Defect) (cs : List Char)
    : Reader α :=
  refuse (defect (escapeText cs)) (cs.length + 1)

/-- A code point of exactly `count` hexadecimal digits after the letter `letter`. -/
def hexEscape (letter : Char) (count : Nat)
    : Reader Nat := do
  let digits ← takeWhile (fun c => (hexValue? c).isSome) count
  let written := letter :: digits
  if digits.length < count then refuseEscape .incompleteEscape written
  else
    let value := valueInBase 16 digits
    if 0x10FFFF < value then refuseEscape .badEscape written else return value

/-- A code point by its name between braces. -/
def namedEscape
    : Reader Nat := do
  if !(← accept '\x7b') then refuse (.missing "\x7b")
  let name ← takeUntil '\x7d' "character name"
  match pointNamed? (String.ofList name) with
  | some point => return point
  | none => refuse (.unknownCharacterName (String.ofList name)) (name.length + 4)

/-- A code point of at most three octal digits, the first of which is `first`. -/
def octalEscape (first : Char)
    : Reader Nat := do
  let digits := first :: (← takeWhile isOctal 2)
  let value := valueInBase 8 digits
  if 0o377 < value then refuseEscape .octalTooLarge digits else return value

/-- A letter that stands for itself nowhere, or another character that does. -/
def plainEscape (c : Char)
    : Reader Nat := do
  if c.isAlpha then refuseEscape .badEscape [c] else return c.toNat

/-- What an escape stands for inside a character set. -/
def setEscape (c : Char)
    : Reader SetItem := do
  match controlEscape? c, categoryEscape? c with
  | some point, _ => return .point point
  | none, some (category, negated) => return .category category negated
  | none, none =>
      match c with
      | 'x' => return .point (← hexEscape 'x' 2)
      | 'u' => return .point (← hexEscape 'u' 4)
      | 'U' => return .point (← hexEscape 'U' 8)
      | 'N' => return .point (← namedEscape)
      | _ =>
          if isOctal c then return .point (← octalEscape c)
          else if isDecimal c then refuseEscape .badEscape [c]
          else return .point (← plainEscape c)

/-- A reference to a closed group that has been written with the digits `digits`. -/
def referenceTo (digits : List Char)
    : Reader Node := do
  let number := valueInBase 10 digits
  if number < (← groupCount) then
    if !(← isClosed number) then refuse .openGroup (digits.length + 1)
    checkLookbehind number
    return .reference number
  else refuse (.invalidReference number) digits.length

/-- An escape that begins with a digit other than zero: three octal digits are a code point, any
other one or two digits the number of a group. -/
def numberedEscape (first : Char)
    : Reader Node := do
  match ← takeWhile isDecimal 1 with
  | [second] =>
      if isOctal first && isOctal second then
        match ← takeWhile isOctal 1 with
        | [third] =>
            let digits := [first, second, third]
            let value := valueInBase 8 digits
            if 0o377 < value then refuseEscape .octalTooLarge digits
            else return .point value
        | _ => referenceTo [first, second]
      else referenceTo [first, second]
  | _ => referenceTo [first]

/-- What an escape stands for outside character sets. -/
def termEscape (c : Char)
    : Reader Node := do
  match anchorEscape? c, categoryEscape? c, controlEscape? c with
  | some anchor, _, _ => return .anchor anchor
  | none, some (category, negated), _ => return .set false [.category category negated]
  | none, none, some point => return .point point
  | none, none, none =>
      match c with
      | 'x' => return .point (← hexEscape 'x' 2)
      | 'u' => return .point (← hexEscape 'u' 4)
      | 'U' => return .point (← hexEscape 'U' 8)
      | 'N' => return .point (← namedEscape)
      | '0' => return .point (valueInBase 8 (← takeWhile isOctal 2))
      | _ =>
          if isDecimal c then numberedEscape c
          else return .point (← plainEscape c)

end Reader

end Assay.Pattern
