import Assay.Fault
import Assay.Number.Decimal

/-!
Numbers of four classes, integers, binary, decimal and complex ones, and their comparison by exact
value. Complex numbers are none of JSON and have no order.
-/

namespace Assay

/-- A number: an integer, a binary or a decimal one as documents and definitions hold them, or a
complex one, which can only be given as a bound. -/
inductive Number where
  | int (value : Int)
  | float (value : Binary64)
  | decimal (value : Decimal)
  | complex (real imaginary : Binary64)
deriving DecidableEq, Repr

namespace Number

/-- A place on the extended number line. -/
inductive Extent where
  | below
  | finite (value : Scaled)
  | above
deriving DecidableEq, Repr

/-- The order of the extended number line. -/
def Extent.order
    : Extent → Extent → Ordering
  | .below, .below | .above, .above => .eq
  | .below, _ | _, .above => .lt
  | _, .below | .above, _ => .gt
  | .finite a, .finite b => a.order b

/-- Where a number stands on the extended number line; a mark for no number stands nowhere, and
neither does a complex number. -/
def extent?
    : Number → Option Extent
  | .int value => some (.finite ⟨value, 0⟩)
  | .float (.nan _) => none
  | .float (.infinite negative) => some (if negative then .below else .above)
  | .float (.finite negative mantissa exponent) =>
      some (.finite (Binary64.exactly negative mantissa exponent))
  | .decimal (.nan ..) => none
  | .decimal (.infinite negative) => some (if negative then .below else .above)
  | .decimal (.finite negative coefficient exponent) =>
      some (.finite (Decimal.exactly negative coefficient exponent))
  | .complex .. => none

/-- A decimal number, finite or not. -/
def isDecimal
    : Number → Bool
  | .decimal _ => true
  | _ => false

/-- A complex number. -/
def isComplex
    : Number → Bool
  | .complex .. => true
  | _ => false

/-- A decimal number with the signalling mark. -/
def isSignalling
    : Number → Bool
  | .decimal (.nan _ signalling _ _) => signalling
  | _ => false

/-- The object that a mark for no number is. -/
def object?
    : Number → Option Nat
  | .float (.nan object) | .decimal (.nan _ _ _ object) => some object
  | _ => none

/-- The name of a number's class. -/
def typeName
    : Number → String
  | .int _ => "int"
  | .float _ => "float"
  | .decimal _ => "Decimal"
  | .complex .. => "complex"

/-- The name of a number's class with the module that it comes from. -/
def qualifiedTypeName
    : Number → String
  | .decimal _ => "decimal.Decimal"
  | number => number.typeName

/-- How two numbers compare, if both are numbers. -/
def order? (a b : Number)
    : Option Ordering := do
  let a ← a.extent?
  let b ← b.extent?
  some (a.order b)

/-- The fault of a comparison that the classes of two numbers do not have. -/
def incomparable (sign : String) (a b : Number)
    : Fault :=
  .incomparable sign a.qualifiedTypeName b.qualifiedTypeName

/-- Whether `a` and `b` stand in the order that `holds` accepts. Without an order the answer is no,
but a fault if a decimal number takes part, and the fault `apart` if a complex one does. -/
def compared (apart : Fault) (holds : Ordering → Bool) (a b : Number)
    : Except Fault Bool :=
  match a.order? b with
  | some order => .ok (holds order)
  | none =>
      if a.isComplex || b.isComplex then .error apart
      else if a.isDecimal || b.isDecimal then .error .unorderedDecimal
      else .ok false

/-- `a < b` by exact value. -/
def less (a b : Number)
    : Except Fault Bool :=
  compared (incomparable "<" a b) (· == .lt) a b

/-- `a ≤ b` by exact value. -/
def lessOrEqual (a b : Number)
    : Except Fault Bool :=
  compared (incomparable "<=" a b) (· != .gt) a b

/-- `a > b` by exact value. -/
def greater (a b : Number)
    : Except Fault Bool :=
  compared (incomparable ">" a b) (· == .lt) b a

/-- `a ≥ b` by exact value. -/
def greaterOrEqual (a b : Number)
    : Except Fault Bool :=
  compared (incomparable ">=" a b) (· != .gt) b a

/-- The real part of a number. -/
def real
    : Number → Number
  | .complex real _ => .float real
  | number => number

/-- The imaginary part of a number. -/
def imaginary
    : Number → Number
  | .complex _ imaginary => .float imaginary
  | _ => .int 0

/-- Whether two numbers have the same exact value; a signalling mark cannot be asked. -/
def equal (a b : Number)
    : Except Fault Bool :=
  if a.isSignalling || b.isSignalling then .error .unorderedDecimal
  else .ok (a.imaginary.order? b.imaginary == some .eq && a.real.order? b.real == some .eq)

/-- Whether two numbers are the same object. Only marks for no number tell, which equal nothing. -/
def isSame (a b : Number)
    : Bool :=
  a.object?.isSome && a = b

/-- Whether a number is zero. -/
def isZero
    : Number → Bool
  | .int value => value == 0
  | .float (.finite _ mantissa _) => mantissa == 0
  | .decimal (.finite _ coefficient _) => coefficient == 0
  | .complex (.finite _ real _) (.finite _ imaginary _) => real == 0 && imaginary == 0
  | _ => false

/-- The written form of a complex number: its imaginary part alone if the real part is zero without
a sign, and both parts between brackets otherwise. -/
def complexText (real imaginary : Binary64)
    : String :=
  let part := FloatLayout.part.write imaginary ++ "j"
  match real with
  | .finite false 0 _ => part
  | real =>
      let sign := if imaginary.isNegative then "" else "+"
      "(" ++ FloatLayout.part.write real ++ sign ++ part ++ ")"

/-- The written form of a number. -/
def text
    : Number → String
  | .int value => toString value
  | .float value => value.text
  | .decimal value => value.text
  | .complex real imaginary => complexText real imaginary

end Number

end Assay
