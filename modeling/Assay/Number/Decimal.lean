import Assay.Number.FloatText
import Assay.Number.Reading

/-!
Decimal numbers that keep the places they were written with, and their written form.
-/

namespace Assay

/-- A decimal number: `coefficient · 10 ^ exponent` with a sign, an infinity, or a quiet or
signalling mark that stands for no number and may carry a payload. A mark carries the object that it
is, too. -/
inductive Decimal where
  | nan (negative signalling : Bool) (payload object : Nat)
  | infinite (negative : Bool)
  | finite (negative : Bool) (coefficient : Nat) (exponent : Int)
deriving DecidableEq, Repr

namespace Decimal
open Number Text

/-- The exact value of a finite decimal number. -/
def exactly (negative : Bool) (coefficient : Nat) (exponent : Int)
    : Scaled :=
  ⟨if negative then -(coefficient : Int) else coefficient, exponent⟩

/-- The leading exponents, counted from −6 to zero, of numbers that are written positionally when
their exponent is not positive. -/
def leastPositional : Int := -6

/-- The written form of a magnitude: all digits of the coefficient, positionally if the exponent is
not positive and the leading digit stands at most six places after the point. -/
def magnitudeText (coefficient : Nat) (exponent : Int)
    : String :=
  let digits := decimalDigits coefficient
  let point := digits.length + exponent
  if exponent ≤ 0 ∧ leastPositional ≤ point - 1 then
    if exponent = 0 then String.ofList digits
    else (Digits.mk digits point).positional ""
  else
    let mantissa := match digits with
      | [] => "0"
      | [digit] => String.singleton digit
      | digit :: rest => String.singleton digit ++ "." ++ String.ofList rest
    mantissa ++ (if point = 1 then "" else exponentText "E" 1 (point - 1))

/-- The written form, which shows every digit and the exponent of the number. -/
def text
    : Decimal → String
  | .nan negative signalling payload _ =>
      signText negative ++ (if signalling then "sNaN" else "NaN") ++
        (if payload = 0 then "" else toString payload)
  | .infinite negative => signText negative ++ "Infinity"
  | .finite negative coefficient exponent =>
      signText negative ++ magnitudeText coefficient exponent

/-- Reads a decimal number; underscores are skipped wherever they stand. A mark is read as the
object zero. -/
def ofText? (cs : List Char)
    : Option Decimal :=
  let plain := (asciiDigits (trimBlank cs)).filter (· ≠ '_')
  let (negative, magnitude) := takeSign plain
  let lower := asciiLower magnitude
  let word := String.ofList lower
  if word = "inf" ∨ word = "infinity" then some (.infinite negative)
  else
    let (signalling, rest) := match lower with
      | 's' :: rest => (true, rest)
      | rest => (false, rest)
    match rest with
    | 'n' :: 'a' :: 'n' :: payload =>
        if payload.all isAsciiDigit then some (.nan negative signalling (digitsValue payload) 0)
        else none
    | _ => do
        let (coefficient, places, rest) ← takeDecimal? magnitude
        let exponent ← exponent? rest
        some (.finite negative coefficient (exponent - places))

/-- The binary number nearest to a decimal number; a signalling mark has none. -/
def toBinary64?
    : Decimal → Option Binary64
  | .nan _ signalling _ object => if signalling then none else some (.nan object)
  | .infinite negative => some (.infinite negative)
  | .finite negative coefficient exponent => some (.ofDecimal negative coefficient exponent)

/-- The integer part of a finite decimal number. -/
def truncated (negative : Bool) (coefficient : Nat) (exponent : Int)
    : Int :=
  let magnitude := coefficient * Nat.pow 10 exponent.toNat / Nat.pow 10 (-exponent).toNat
  if negative then -(magnitude : Int) else magnitude

end Decimal

end Assay
