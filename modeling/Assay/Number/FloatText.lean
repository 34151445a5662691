import Assay.Number.Shortest

/-!
Written forms of binary numbers: the shortest form, a fixed number of places, and an exponent.
-/

namespace Assay.Number

/-- How a number's shortest digits are laid out. -/
structure FloatLayout where
  /-- The least leading exponent that is written positionally. -/
  firstPositional : Int
  /-- The least leading exponent above those that are written positionally. -/
  endPositional : Int
  /-- What follows a whole number that is written positionally. -/
  wholeSuffix : String
  /-- The mark before an exponent. -/
  mark : String
  /-- The least number of digits of an exponent. -/
  exponentWidth : Nat
  /-- The word for infinity. -/
  infinity : String
  /-- The word for the number that is none. -/
  notANumber : String

/-- Numbers from 0.0001 up to below 10 ^ 16 are written positionally, whole ones with `.0`; an
exponent has a sign and at least two digits. -/
def FloatLayout.plain : FloatLayout where
  firstPositional := -4
  endPositional := 16
  wholeSuffix := ".0"
  mark := "e"
  exponentWidth := 2
  infinity := "inf"
  notANumber := "nan"

/-- The plain layout with the words of JSON texts for the numbers that JSON lacks. -/
def FloatLayout.json : FloatLayout :=
  { FloatLayout.plain with infinity := "Infinity", notANumber := "NaN" }

/-- The plain layout without `.0`, in which the parts of complex numbers are written. -/
def FloatLayout.part : FloatLayout :=
  { FloatLayout.plain with wholeSuffix := "" }

/-- The sign that is written before a magnitude. -/
def signText (negative : Bool)
    : String :=
  if negative then "-" else ""

/-- A natural number with at least `width` digits. -/
def paddedNat (width n : Nat)
    : String :=
  let digits := decimalDigits n
  String.ofList (List.replicate (width - digits.length) '0' ++ digits)

/-- An exponent with its mark, its sign and at least `width` digits. -/
def exponentText (mark : String) (width : Nat) (exponent : Int)
    : String :=
  mark ++ (if exponent < 0 then "-" else "+") ++ paddedNat width exponent.natAbs

/-- Digits with a point, without an exponent; a whole number ends in `wholeSuffix`. -/
def Digits.positional (d : Digits) (wholeSuffix : String)
    : String :=
  if d.point ≤ 0 then
    "0." ++ String.ofList (List.replicate (-d.point).toNat '0' ++ d.digits)
  else
    let whole := d.point.toNat
    if d.digits.length ≤ whole then
      String.ofList (d.digits ++ List.replicate (whole - d.digits.length) '0') ++ wholeSuffix
    else
      String.ofList (d.digits.take whole) ++ "." ++ String.ofList (d.digits.drop whole)

/-- Digits with a point after the first one, if more follow, and an exponent. -/
def Digits.scientific (d : Digits) (mark : String) (width : Nat)
    : String :=
  let mantissa := match d.digits with
    | [] => "0"
    | [digit] => String.singleton digit
    | digit :: rest => String.singleton digit ++ "." ++ String.ofList rest
  mantissa ++ exponentText mark width (d.point - 1)

/-- The shortest form of a number in a layout. -/
def FloatLayout.write (layout : FloatLayout)
    : Binary64 → String
  | .nan _ => layout.notANumber
  | .infinite negative => signText negative ++ layout.infinity
  | .finite negative mantissa exponent =>
      let digits := shortest mantissa exponent
      let leading := digits.point - 1
      signText negative ++
        (if layout.firstPositional ≤ leading ∧ leading < layout.endPositional then
          digits.positional layout.wholeSuffix
        else digits.scientific layout.mark layout.exponentWidth)

/-- The magnitude `num / den` with exactly `places` digits after the point, a half going to the
even neighbour. -/
def fixedText (places num den : Nat)
    : String :=
  let rounded := roundHalfEven (num * Nat.pow 10 places) den
  if places = 0 then String.ofList (decimalDigits rounded)
  else
    let whole := rounded / Nat.pow 10 places
    String.ofList (decimalDigits whole) ++ "." ++ paddedNat places (rounded % Nat.pow 10 places)

end Assay.Number

namespace Assay.Binary64
open Number

/-- The shortest form that reads back. -/
def text (x : Binary64)
    : String :=
  FloatLayout.plain.write x

/-- A number with exactly `places` digits after the point. -/
def fixed (places : Nat)
    : Binary64 → String
  | .nan _ => FloatLayout.plain.notANumber
  | .infinite negative => signText negative ++ FloatLayout.plain.infinity
  | .finite negative mantissa exponent =>
      let (num, den) := ratio mantissa exponent
      signText negative ++ fixedText places num den

/-- The integer part of a finite number. -/
def truncated (negative : Bool) (mantissa : Nat) (exponent : Int)
    : Int :=
  let (num, den) := ratio mantissa exponent
  if negative then -((num / den : Nat) : Int) else (num / den : Nat)

end Assay.Binary64
