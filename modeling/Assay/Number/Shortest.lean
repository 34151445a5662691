import Assay.Number.Binary64

/-!
The fewest decimal digits that round back to a binary number, and decimal digits rounded to a
given count.
-/

namespace Assay.Number

/-- Decimal digits read as `0.d₁d₂… · 10 ^ point`. -/
structure Digits where
  digits : List Char
  point : Int
deriving DecidableEq, Repr

/-- A natural number's decimal digits. -/
def decimalDigits (n : Nat)
    : List Char :=
  Nat.toDigits 10 n

/-- The digits of `significand · 10 ^ exponent` without the zeros at their end. -/
def Digits.trimmed (significand : Nat) (exponent : Int)
    : Digits :=
  let all := decimalDigits significand
  ⟨(all.reverse.dropWhile (· == '0')).reverse, all.length + exponent⟩

/-- The exponent of the leading decimal digit of `num / den`, for a ratio other than zero. -/
def leadingExponent (num den : Nat)
    : Int :=
  let guess : Int := (digitCount num : Int) - digitCount den
  -- the ratio lies between `10 ^ (guess - 1)` and `10 ^ (guess + 1)`
  if den * Nat.pow 10 guess.toNat ≤ num * Nat.pow 10 (-guess).toNat then guess else guess - 1

/-- The reals that round to `mantissa · 2 ^ exponent`, as quarter units of its last place: a lower
and an upper end, which belong to the interval if the mantissa is even. -/
def roundingInterval (mantissa : Nat) (exponent : Int)
    : Nat × Nat :=
  if mantissa = Nat.pow 2 52 ∧ Binary64.leastExponent < exponent then
    (4 * mantissa - 1, 4 * mantissa + 2)
  else (4 * mantissa - 2, 4 * mantissa + 2)

/-- Whether `candidate · 10 ^ place` rounds to `mantissa · 2 ^ exponent`. -/
def roundsBack (mantissa : Nat) (exponent : Int) (candidate : Nat) (place : Int)
    : Bool :=
  let (low, high) := roundingInterval mantissa exponent
  let scale := exponent - 2
  let value := candidate * Nat.pow 10 place.toNat * Nat.pow 2 (-scale).toNat
  let unit := Nat.pow 10 (-place).toNat * Nat.pow 2 scale.toNat
  if mantissa % 2 = 0 then low * unit ≤ value && value ≤ high * unit
  else low * unit < value && value < high * unit

/-- The best number with its last digit at `place` that rounds back, if there is one: the nearer
of the two neighbours of the value on that grid, the even one if both are as near. -/
def bestAtPlace? (mantissa : Nat) (exponent place : Int)
    : Option Nat :=
  let (num, den) := Binary64.ratio mantissa exponent
  let num := num * Nat.pow 10 (-place).toNat
  let den := den * Nat.pow 10 place.toNat
  let below := num / den
  let nearest := roundHalfEven num den
  let other := if nearest = below then below + 1 else below
  if roundsBack mantissa exponent nearest place then some nearest
  else if roundsBack mantissa exponent other place then some other
  else none

/-- The fewest digits that round back to `mantissa · 2 ^ exponent`, trying one digit more as long
as there is no number that does. -/
def shortestFrom (mantissa : Nat) (exponent leading : Int)
    : Nat → Nat → Digits
  | 0, count =>
      let place := leading - count + 1
      let (num, den) := Binary64.ratio mantissa exponent
      .trimmed
        (roundHalfEven (num * Nat.pow 10 (-place).toNat) (den * Nat.pow 10 place.toNat)) place
  | more + 1, count =>
      let place := leading - count + 1
      match bestAtPlace? mantissa exponent place with
      | some significand => .trimmed significand place
      | none => shortestFrom mantissa exponent leading more (count + 1)

/-- The fewest digits that round back to a finite number; seventeen always do. -/
def shortest (mantissa : Nat) (exponent : Int)
    : Digits :=
  if mantissa = 0 then ⟨['0'], 1⟩
  else
    let (num, den) := Binary64.ratio mantissa exponent
    shortestFrom mantissa exponent (leadingExponent num den) 16 1

/-- The digits of `num / den` rounded to `count` significant ones, `count` at least one. -/
def significant (count num den : Nat)
    : Digits :=
  if num = 0 then ⟨List.replicate count '0', 1⟩
  else
    let place := leadingExponent num den - count + 1
    let rounded := roundHalfEven (num * Nat.pow 10 (-place).toNat) (den * Nat.pow 10 place.toNat)
    if rounded = Nat.pow 10 count then ⟨decimalDigits (Nat.pow 10 (count - 1)), count + place + 1⟩
    else ⟨decimalDigits rounded, count + place⟩

end Assay.Number
