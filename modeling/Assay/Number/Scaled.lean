/-!
Exact decimal numbers: an integer coefficient times a power of ten, and their order.
-/

namespace Assay.Number

/-- The rational number `coefficient · 10 ^ exponent`. -/
structure Scaled where
  coefficient : Int
  exponent : Int
deriving DecidableEq, Repr

/-- The number of decimal digits of `n`; zero has none. -/
def digitCount (n : Nat)
    : Nat :=
  if n = 0 then 0 else digitCount (n / 10) + 1

namespace Scaled

/-- The coefficient over a smaller or equal power of ten. -/
def alignedTo (exponent : Int) (a : Scaled)
    : Int :=
  a.coefficient * Int.pow 10 (a.exponent - exponent).toNat

/-- The power of ten just above the leading digit of a number other than zero. -/
def magnitude (a : Scaled)
    : Int :=
  digitCount a.coefficient.natAbs + a.exponent

/-- The order of two exact numbers. Signs and magnitudes are compared first, so that a far larger
exponent is never multiplied out. -/
def order (a b : Scaled)
    : Ordering :=
  match compare a.coefficient.sign b.coefficient.sign with
  | .lt => .lt
  | .gt => .gt
  | .eq =>
      if a.coefficient = 0 then .eq
      else match compare a.magnitude b.magnitude with
        | .eq =>
            let exponent := min a.exponent b.exponent
            compare (a.alignedTo exponent) (b.alignedTo exponent)
        | .lt => if a.coefficient < 0 then .gt else .lt
        | .gt => if a.coefficient < 0 then .lt else .gt

end Scaled

/-- The integer nearest to `num / den`, the even one of two. -/
def roundHalfEven (num den : Nat)
    : Nat :=
  let quotient := num / den
  let twice := 2 * (num % den)
  if twice < den then quotient
  else if den < twice then quotient + 1
  else if quotient % 2 = 0 then quotient
  else quotient + 1

end Assay.Number
