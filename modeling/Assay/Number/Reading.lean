import Assay.Number.Binary64
import Assay.Text.Blank
import Assay.Text.Digit

/-!
Reading numbers from texts: digits of any script, single underscores between digits, and blanks
at both ends.
-/

namespace Assay.Number
open Text

/-- White space that may stand around a number: any blank but the four ASCII separators. -/
def isBlankAround (c : Char)
    : Bool :=
  isBlank c && !(28 ≤ c.toNat && c.toNat ≤ 31)

/-- A text without the white space around it. -/
def trimAround (cs : List Char)
    : List Char :=
  ((cs.dropWhile isBlankAround).reverse.dropWhile isBlankAround).reverse

/-- A text with the digits of every script written in ASCII. -/
def asciiDigits (cs : List Char)
    : List Char :=
  cs.map fun c => match digitValue? c with
    | some value => Char.ofNat ('0'.toNat + value)
    | none => c

/-- A decimal digit written in ASCII. -/
def isAsciiDigit (c : Char)
    : Bool :=
  '0' ≤ c && c ≤ '9'

/-- A text without its underscores, each of which must stand between two digits. -/
def withoutUnderscores? (previous : Char)
    : List Char → Option (List Char)
  | [] => if previous == '_' then none else some []
  | '_' :: rest => if isAsciiDigit previous then withoutUnderscores? '_' rest else none
  | c :: rest =>
      if previous == '_' && !isAsciiDigit c then none
      else (withoutUnderscores? c rest).map (c :: ·)

/-- The value of ASCII digits. -/
def digitsValue (cs : List Char)
    : Nat :=
  cs.foldl (fun value c => value * 10 + (c.toNat - '0'.toNat)) 0

/-- A sign, if there is one, and the rest. -/
def takeSign
    : List Char → Bool × List Char
  | '-' :: rest => (true, rest)
  | '+' :: rest => (false, rest)
  | cs => (false, cs)

/-- Digits with at most one point among them, at least one digit: the coefficient, the number of
digits after the point, and the rest. -/
def takeDecimal? (cs : List Char)
    : Option (Nat × Nat × List Char) :=
  let whole := cs.takeWhile isAsciiDigit
  let rest := cs.dropWhile isAsciiDigit
  let (part, rest) := match rest with
    | '.' :: rest => (rest.takeWhile isAsciiDigit, rest.dropWhile isAsciiDigit)
    | _ => ([], rest)
  if whole.isEmpty && part.isEmpty then none
  else some (digitsValue (whole ++ part), part.length, rest)

/-- An exponent that fills the text, none in the empty text. -/
def exponent?
    : List Char → Option Int
  | [] => some 0
  | mark :: rest =>
      if mark == 'e' || mark == 'E' then
        let (negative, digits) := takeSign rest
        if digits.isEmpty || !digits.all isAsciiDigit then none
        else some (if negative then -(digitsValue digits : Int) else digitsValue digits)
      else none

/-- A text in ASCII lower case. -/
def asciiLower (cs : List Char)
    : List Char :=
  cs.map Char.toLower

/-- Reads an integer. -/
def readInt? (cs : List Char)
    : Option Int := do
  let (negative, digits) := takeSign (asciiDigits (trimAround cs))
  let plain ← withoutUnderscores? ' ' digits
  if plain.isEmpty || !plain.all isAsciiDigit then none
  else some (if negative then -(digitsValue plain : Int) else digitsValue plain)

end Assay.Number

namespace Assay.Binary64
open Number Text

/-- Reads a binary number: a decimal one in ASCII digits, which is rounded, or a word for infinity
or for the number that is none, which is read as the object zero. -/
def ofPlainText? (cs : List Char)
    : Option Binary64 := do
  let (negative, magnitude) := takeSign cs
  let word := String.ofList (asciiLower magnitude)
  if word = "inf" ∨ word = "infinity" then some (.infinite negative)
  else if word = "nan" then some (.nan 0)
  else
    let (coefficient, places, rest) ← takeDecimal? magnitude
    let exponent ← exponent? rest
    some (ofDecimal negative coefficient (exponent - places))

/-- Reads a binary number in digits of any script, with underscores between digits and white space
around. -/
def ofText? (cs : List Char)
    : Option Binary64 := do
  ofPlainText? (← withoutUnderscores? ' ' (asciiDigits (trimAround cs)))

end Assay.Binary64
