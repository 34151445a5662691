import Assay.Number.Scaled

/-!
Binary floating-point numbers with 53 significant bits, and rounding to the nearest of them.
-/

namespace Assay

/-- A number of the binary format with 53 significant bits and exponents from −1074 to 971. A
finite one is `mantissa · 2 ^ exponent` with a sign that zero has too. A mark that stands for no
number equals nothing, not even itself, so it carries the object that it is. -/
inductive Binary64 where
  | nan (object : Nat)
  | infinite (negative : Bool)
  | finite (negative : Bool) (mantissa : Nat) (exponent : Int)
deriving DecidableEq, Repr

namespace Binary64
open Number

/-- The least exponent of the format. -/
def leastExponent : Int := -1074

/-- The greatest exponent of the format. -/
def greatestExponent : Int := 971

/-- The positive number zero. -/
def zero : Binary64 := .finite false 0 leastExponent

/-- The number of the format nearest to `num / den`, an even mantissa winning a tie. -/
def ofRatio (negative : Bool) (num den : Nat)
    : Binary64 :=
  if num = 0 ∨ den = 0 then .finite negative 0 leastExponent
  else
    let guess := max ((num.log2 : Int) - den.log2 - 53) leastExponent
    let scaledBy (exponent : Int) : Nat × Nat :=
      (num * Nat.pow 2 (-exponent).toNat, den * Nat.pow 2 exponent.toNat)
    let exponent :=
      let (n, d) := scaledBy guess
      if n / d < Nat.pow 2 53 then guess else guess + 1
    let (n, d) := scaledBy exponent
    let mantissa := roundHalfEven n d
    let (mantissa, exponent) :=
      if mantissa = Nat.pow 2 53 then (Nat.pow 2 52, exponent + 1) else (mantissa, exponent)
    if greatestExponent < exponent then .infinite negative
    else .finite negative mantissa exponent

/-- The number of the format nearest to `coefficient · 10 ^ exponent`. -/
def ofDecimal (negative : Bool) (coefficient : Nat) (exponent : Int)
    : Binary64 :=
  let magnitude := digitCount coefficient + exponent
  if coefficient = 0 ∨ magnitude < -330 then .finite negative 0 leastExponent
  else if 330 < magnitude then .infinite negative
  else ofRatio negative (coefficient * Nat.pow 10 exponent.toNat) (Nat.pow 10 (-exponent).toNat)

/-- The exact value of `mantissa · 2 ^ exponent` as a decimal number. -/
def exactly (negative : Bool) (mantissa : Nat) (exponent : Int)
    : Scaled :=
  let sign : Int := if negative then -1 else 1
  if 0 ≤ exponent then ⟨sign * (mantissa * Nat.pow 2 exponent.toNat : Nat), 0⟩
  else ⟨sign * (mantissa * Nat.pow 5 (-exponent).toNat : Nat), exponent⟩

/-- A finite number as a ratio of naturals, its sign apart. -/
def ratio (mantissa : Nat) (exponent : Int)
    : Nat × Nat :=
  (mantissa * Nat.pow 2 exponent.toNat, Nat.pow 2 (-exponent).toNat)

/-- Whether the sign is negative; the number that is none has no sign. -/
def isNegative
    : Binary64 → Bool
  | .nan _ => false
  | .infinite negative => negative
  | .finite negative _ _ => negative

end Binary64

end Assay
