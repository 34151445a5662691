import Assay.Number.Reading
import Assay.Record.Issue

/-!
Numbers that a field takes from texts. An integer has one plain form; a text that differs from it
by a sign, by zeros at its ends or by underscores is brought into that form first.
-/

namespace Assay.Record
open Number Reading

/-- The most characters that an integer may have. -/
def numeralLimit : Nat := 4300

/-- The integer that a text is in plain form: a hyphen if it is negative, and digits the first of
which is a zero only if it is the last too. -/
def plainWhole
    : List Char → Reading Int
  | '-' :: digits => (magnitude (numeralLimit - 1) digits).map fun value => -(value : Int)
  | digits => (magnitude numeralLimit digits).map fun value => (value : Int)
where
  /-- The value of digits, of which there are at most `limit`. -/
  magnitude (limit : Nat) (cs : List Char)
      : Reading Nat :=
    let digits := cs.takeWhile isAsciiDigit
    if digits.isEmpty then wrong .intParsing
    else if digits.head? = some '0' then
      if cs = ['0'] then .ok 0 else wrong .intParsing
    else if limit < digits.length then wrong .intParsingSize
    else if cs.length = digits.length then .ok (digitsValue digits)
    else wrong .intParsing

/-- A digit other than zero. -/
def isNonzeroDigit (c : Char)
    : Bool :=
  '1' ≤ c && c ≤ '9'

/-- What follows zeros and underscores of which `latest` is the last one so far: a digit or a
hyphen takes their place, a point keeps the last of them. -/
def afterZeros? (latest : Char)
    : List Char → Option (List Char)
  | [] => some [latest]
  | c :: rest =>
      if c = '0' || c = '_' then afterZeros? c rest
      else if isNonzeroDigit c || c = '-' then some (c :: rest)
      else if c = '.' then some (latest :: c :: rest)
      else none

/-- A numeral without the zeros that it begins with. -/
def withoutLeadingZeros?
    : List Char → Option (List Char)
  | [] => none
  | c :: rest =>
      if c = '0' then afterZeros? c rest
      else if isNonzeroDigit c || c = '-' then some (c :: rest)
      else none

/-- A numeral without a plus sign, before which no other sign may stand. -/
def withoutPlus?
    : List Char → Option (List Char)
  | '+' :: '-' :: _ => none
  | '+' :: rest => some rest
  | cs => some cs

/-- A numeral without a fraction, which must consist of zeros. -/
def withoutZeroFraction? (cs : List Char)
    : Option (List Char) :=
  match cs.dropWhile (· ≠ '.') with
  | [] => some cs
  | _ :: fraction =>
      if !fraction.isEmpty && fraction.all (· = '0') then some (cs.takeWhile (· ≠ '.')) else none

/-- Whether two underscores stand side by side. -/
def hasDoubleUnderscore
    : List Char → Bool
  | '_' :: '_' :: _ => true
  | _ :: rest => hasDoubleUnderscore rest
  | [] => false

/-- A text without its underscores, none of which may stand at an end or beside another. -/
def withoutInnerUnderscores? (cs : List Char)
    : Option (List Char) :=
  if cs.head? = some '_' || cs.getLast? = some '_' || hasDoubleUnderscore cs then none
  else some (cs.filter (· ≠ '_'))

/-- A numeral brought into plain form as far as that goes. -/
def cleaned? (cs : List Char)
    : Option (List Char) := do
  let cs ← withoutPlus? cs
  let cs ← withoutLeadingZeros? cs
  let cs ← withoutZeroFraction? cs
  withoutInnerUnderscores? cs

/-- The integer that a text stands for. A text that begins with too many digits is not looked at
any further. -/
def wholeOfText (text : String)
    : Reading Int :=
  let cs := trimAround text.toList
  match plainWhole cs with
  | .ok value => .ok value
  | .error problems =>
      if problems.any (·.issue = .intParsingSize) then .error problems
      else match (cleaned? cs).map plainWhole with
        | some (.ok value) => .ok value
        | _ => wrong .intParsing

/-- The binary number that a text stands for. Underscores are looked for only where the text is no
number without the white space around it, and then the white space counts. -/
def realOfText (text : String)
    : Reading Binary64 :=
  match Binary64.ofPlainText? (trimAround text.toList) with
  | some number => .ok number
  | none =>
      match (withoutInnerUnderscores? text.toList).bind Binary64.ofPlainText? with
      | some number => .ok number
      | none => wrong .floatParsing

end Assay.Record
