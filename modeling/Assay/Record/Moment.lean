import Assay.Format.Clock
import Assay.Number.Basic
import Assay.Record.Issue
import Assay.Value.Basic

/-!
Moments that a field takes: dates with or without a time of day, and counts of seconds or
milliseconds since the beginning of 1970. Only whether a value stands for a moment matters here.
-/

namespace Assay.Record
open Format Number Reading

/-! ## Counts of seconds -/

/-- A count farther from zero than this one is of milliseconds. -/
def secondsLimit : Nat := 20000000000

/-- The seconds that a count stands for, those of milliseconds rounded down. -/
def secondsOf (count : Int)
    : Int :=
  if count.natAbs ≤ secondsLimit then count else Int.fdiv count 1000

/-- The second at which the year zero begins. -/
def yearZero : Int := -62167219200

/-- The second at which the year one begins. -/
def yearOne : Int := -62135596800

/-- The last second of the year 9999. -/
def lastSecond : Int := 253402300799

/-- The moment of a count of seconds. Outside the years that can be told it is for `outside` to say
what is wrong; the year zero can be told, but is no year of the calendar. -/
def momentOfCount (outside : Issue) (count : Int)
    : Reading Unit :=
  let seconds := secondsOf count
  if seconds < yearZero || lastSecond < seconds then wrong outside
  else if seconds < yearOne then wrong .datetimeParsing
  else .ok ()

/-! ## Texts -/

/-- The greatest integer of 64 bits. -/
def greatestWord : Nat := Nat.pow 2 63 - 1

/-- A count that is written with digits, and with a fraction perhaps. A fraction is rounded down,
from seconds that milliseconds stand for too. -/
def countOfText? (cs : List Char)
    : Option Int := do
  let (negative, rest) := takeSign cs
  let digits := rest.takeWhile isAsciiDigit
  if digits.isEmpty || greatestWord < digitsValue digits then none
  else
    let whole : Int := if negative then -(digitsValue digits : Int) else digitsValue digits
    match rest.dropWhile isAsciiDigit with
    | [] => some whole
    | '.' :: fraction =>
        if !fraction.all isAsciiDigit then none
        else
          let isPlain := fraction.all (· = '0')
          let floor := if negative && !isPlain then whole - 1 else whole
          let isBeyond := secondsLimit < whole.natAbs || whole.natAbs = secondsLimit && !isPlain
          some (if isBeyond then Int.fdiv floor 1000 else floor)
    | _ => none

/-- Whether a text is a number of minutes behind which nothing follows. -/
def isMinutes
    : List Char → Bool
  | [m₁, m₂] => (digitsOnly? [m₁, m₂]).any (· ≤ 59)
  | _ => false

/-- Whether a text is nothing, the letter for universal time, or a sign with hours and minutes. -/
def isZone
    : List Char → Bool
  | [] | ['Z'] | ['z'] => true
  | sign :: h₁ :: h₂ :: rest =>
      (sign = '+' || sign = '-' || sign = '−') && (digitsOnly? [h₁, h₂]).any (· ≤ 23)
        && isMinutes (if rest.head? = some ':' then rest.drop 1 else rest)
  | _ => false

/-- Whether a text is a fraction of a second, or none, and a zone. -/
def isFractionAndZone
    : List Char → Bool
  | [] => true
  | c :: rest =>
      if c = '.' || c = ',' then
        rest.head?.any isAsciiDigit && isZone (rest.dropWhile isAsciiDigit)
      else isZone (c :: rest)

/-- Whether a text is seconds with what may follow them, or a zone. -/
def isSecondsAndZone
    : List Char → Bool
  | ':' :: s₁ :: s₂ :: rest =>
      (digitsOnly? [s₁, s₂]).any (· ≤ 59) && isFractionAndZone rest
  | rest => isZone rest

/-- Whether a text is a mark and a time of day. -/
def isMarkedTime
    : List Char → Bool
  | mark :: h₁ :: h₂ :: ':' :: m₁ :: m₂ :: rest =>
      (mark = 'T' || mark = 't' || mark = ' ' || mark = '_')
        && (digitsOnly? [h₁, h₂]).any (· ≤ 23) && (digitsOnly? [m₁, m₂]).any (· ≤ 59)
        && isSecondsAndZone rest
  | _ => false

/-- The moment that a text stands for. -/
def momentOfText (text : String)
    : Reading Unit :=
  let cs := text.toList
  if isDate (cs.take 10) && (cs.length = 10 || isMarkedTime (cs.drop 10)) then
    if (cs.take 4).all (· = '0') then wrong .datetimeParsing else .ok ()
  else match countOfText? cs with
    | some count => momentOfCount .datetimeFromDateParsing count
    | none => wrong .datetimeFromDateParsing

/-! ## Numbers -/

/-- The moment of a binary number of seconds. -/
def momentOfReal
    : Binary64 → Reading Unit
  | .nan _ | .infinite _ => wrong .datetimeParsing
  | .finite negative mantissa exponent =>
      let (num, den) := Binary64.ratio mantissa exponent
      let signed : Int := if negative then -(num : Int) else num
      momentOfCount .datetimeParsing (Int.fdiv signed den)

/-- The moment of an integer. One that is beyond binary numbers is not even taken for a number. -/
def momentOfWhole (count : Int)
    : Reading Unit :=
  match Binary64.ofRatio (count < 0) count.natAbs 1 with
  | .infinite _ => wrong .datetimeType
  | _ => momentOfCount .datetimeParsing count

end Assay.Record
