import Assay.Template.Defect
import Assay.Value.Real
import Assay.Value.Written

/-!
Conversions of a template: how one argument is written, without the padding to its width.
-/

namespace Assay.Template
open Number Text

/-- What stands between a percent sign and the character that names the conversion. -/
structure Directive where
  /-- Padding goes to the right. -/
  leftAligned : Bool := false
  /-- Numbers show their sign even if it is positive. -/
  signed : Bool := false
  /-- Numbers that are not negative show a blank as their sign. -/
  blankSigned : Bool := false
  /-- Bases show their mark, and points are never dropped. -/
  alternate : Bool := false
  /-- Numbers are padded with zeros. -/
  zeroFilled : Bool := false
  width : Option Nat := none
  precision : Option Nat := none

/-- A converted argument: its sign and the mark of its base, both of which come before zeros that
pad it, and the rest. Only numbers have a place for a sign. -/
structure Converted where
  isNumber : Bool
  negative : Bool
  mark : String
  body : String

/-- The greatest number of decimal digits of an integer that can be written. -/
def digitLimit : Nat := 4300

/-- The integer part of a number; a complex number has none. -/
def integerPart (conversion : Char)
    : Number → Except Defect Int
  | .int value => .ok value
  | .float (.nan _) => .error (.integerOfNaN false)
  | .float (.infinite _) => .error (.integerOfInfinity false)
  | .float (.finite negative mantissa exponent) =>
      .ok (Binary64.truncated negative mantissa exponent)
  | .decimal (.nan ..) => .error (.integerOfNaN true)
  | .decimal (.infinite _) => .error (.integerOfInfinity true)
  | .decimal (.finite negative coefficient exponent) =>
      if coefficient ≠ 0 ∧ digitLimit < digitCount coefficient + exponent then
        .error .tooManyDigits
      else .ok (Decimal.truncated negative coefficient exponent)
  | .complex .. => .error (.numberRequired conversion (Number.complex .zero .zero).typeName)

/-- The integer that a value stands for where integers are written. -/
def integerOf (conversion : Char) (wholeOnly : Bool)
    : Value → Except Defect Int
  | .bool value => .ok (if value then 1 else 0)
  | .number (.int value) => .ok value
  | value =>
      if wholeOnly then .error (.integerRequired conversion value.qualifiedTypeName)
      else match value with
        | .number n => integerPart conversion n
        | value => .error (.numberRequired conversion value.qualifiedTypeName)

/-- The integers of a width in bits that has a place for a sign. -/
def fitsInto (bits : Nat) (value : Int)
    : Bool :=
  -Int.pow 2 (bits - 1) ≤ value && value < Int.pow 2 (bits - 1)

/-- The greatest precision that integers can be written with. -/
def greatestIntegerPrecision : Nat := Nat.pow 2 31 - 4

/-- The character that a value stands for: a text of one character, or the number of one. -/
def characterOf (value : Value)
    : Except Defect Char :=
  match value.text? with
  | some text =>
      match text.toList with
      | [c] => .ok c
      | _ => .error .characterRequired
  | none =>
      let point? : Option Int := match value with
        | .bool value => some (if value then 1 else 0)
        | .number (.int value) => some value
        | _ => none
      match point? with
      | none => .error .characterRequired
      | some point =>
          if point < 0 ∨ 0x10FFFF < point then .error .characterOutOfRange
          else .ok (Char.ofNat point.toNat)

/-- A text in ASCII upper case. -/
def upperText (s : String)
    : String :=
  String.ofList (s.toList.map Char.toUpper)

/-- An integer in the base of a conversion, with at least as many digits as the precision asks
for. -/
def convertInteger (directive : Directive) (conversion : Char) (value : Int)
    : Except Defect Converted := do
  if greatestIntegerPrecision < directive.precision.getD 0 then throw .integerPrecisionTooLarge
  let base := if conversion = 'o' then 8 else if conversion = 'x' ∨ conversion = 'X' then 16 else 10
  let digits := Nat.toDigits base value.natAbs
  if base = 10 ∧ digitLimit < digits.length then throw .tooManyDigits
  let missing := directive.precision.getD 0 - digits.length
  let body := String.ofList (List.replicate missing '0' ++ digits)
  let mark :=
    if directive.alternate ∧ base ≠ 10 then "0" ++ String.singleton conversion else ""
  return ⟨true, value < 0, mark, if conversion = 'X' then upperText body else body⟩

/-- Digits as a mantissa with a point behind the first one; the point stays if `kept` holds. -/
def mantissaText (digits : List Char) (kept : Bool)
    : String :=
  match digits with
  | [] => "0"
  | [digit] => String.singleton digit ++ (if kept then "." else "")
  | digit :: rest => String.singleton digit ++ "." ++ String.ofList rest

/-- The magnitude `num / den` with an exponent and `places` digits after the point. -/
def scientificText (directive : Directive) (places num den : Nat)
    : String :=
  let digits := significant (places + 1) num den
  mantissaText digits.digits directive.alternate ++ exponentText "e" 2 (digits.point - 1)

/-- The magnitude `num / den` with `places` digits after the point. -/
def positionalText (directive : Directive) (places num den : Nat)
    : String :=
  fixedText places num den ++ (if directive.alternate ∧ places = 0 then "." else "")

/-- A text without the zeros at its end. -/
def withoutFinalZeros (cs : List Char)
    : List Char :=
  (cs.reverse.dropWhile (· = '0')).reverse

/-- The magnitude `num / den` with `count` significant digits, with an exponent if it is small or
large; zeros at the end are dropped except in the alternate form. -/
def generalText (directive : Directive) (count num den : Nat)
    : String :=
  let digits := significant count num den
  let leading := digits.point - 1
  let kept := if directive.alternate then digits.digits else withoutFinalZeros digits.digits
  if -4 ≤ leading ∧ leading < count then
    let whole := digits.point.toNat
    let shown := if digits.point ≤ 0 then
        "0." ++ String.ofList (List.replicate (-digits.point).toNat '0' ++ kept)
      else if kept.length ≤ whole then
        String.ofList (digits.digits.take whole) ++ (if directive.alternate then "." else "")
      else String.ofList (kept.take whole) ++ "." ++ String.ofList (kept.drop whole)
    if num = 0 ∧ !directive.alternate then "0" else shown
  else mantissaText kept directive.alternate ++ exponentText "e" 2 leading

/-- A real in the notation of a conversion, upper-case letters asking for upper-case marks. -/
def convertReal (directive : Directive) (conversion : Char) (value : Binary64)
    : Converted :=
  let precision := directive.precision.getD 6
  let letter := conversion.toLower
  let body := match value with
    | .nan _ => "nan"
    | .infinite _ => "inf"
    | .finite _ mantissa exponent =>
        let (num, den) := Binary64.ratio mantissa exponent
        if letter = 'e' then scientificText directive precision num den
        else if letter = 'f' then positionalText directive precision num den
        else generalText directive (max precision 1) num den
  ⟨true, value.isNegative, "", if conversion.isUpper then upperText body else body⟩

/-- A text cut to the precision. -/
def convertText (directive : Directive) (text : String)
    : Converted :=
  match directive.precision with
  | none => ⟨false, false, "", text⟩
  | some most => ⟨false, false, "", String.ofList (text.toList.take most)⟩

/-- An argument as a conversion writes it; nothing if no such conversion exists. -/
def convert? (directive : Directive) (conversion : Char) (value : Value)
    : Option (Except Defect Converted) :=
  match conversion with
  | 's' => some (.ok (convertText directive value.display))
  | 'r' => some (.ok (convertText directive value.literal))
  | 'a' => some (.ok (convertText directive (asciiEscaped value.literal)))
  | 'd' | 'i' | 'u' => some do
      convertInteger directive conversion (← integerOf conversion false value)
  | 'o' | 'x' | 'X' => some do
      convertInteger directive conversion (← integerOf conversion true value)
  | 'e' | 'E' | 'f' | 'F' | 'g' | 'G' => some do
      return convertReal directive conversion (← value.real.mapError .notReal)
  | 'c' => some do
      return ⟨false, false, "", String.singleton (← characterOf value)⟩
  | _ => none

/-- The sign that a converted number shows. -/
def Directive.sign (directive : Directive) (converted : Converted)
    : String :=
  if !converted.isNumber then ""
  else if converted.negative then "-"
  else if directive.signed then "+"
  else if directive.blankSigned then " "
  else ""

/-- A converted argument padded to the width: with zeros behind the sign, or with blanks. -/
def Directive.pad (directive : Directive) (converted : Converted)
    : String :=
  let head := directive.sign converted ++ converted.mark
  let missing := directive.width.getD 0 - (head.length + converted.body.length)
  let padding (c : Char) := String.ofList (List.replicate missing c)
  if directive.leftAligned then head ++ converted.body ++ padding ' '
  else if directive.zeroFilled && converted.isNumber then
    head ++ padding '0' ++ converted.body
  else padding ' ' ++ head ++ converted.body

end Assay.Template
