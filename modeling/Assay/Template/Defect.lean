import Assay.Fault

/-!
What can be wrong with a message template or with the arguments given to it.
-/

namespace Assay.Template

/-- Why a template cannot be filled. -/
inductive Defect where
  | tooFewArguments
  | tooManyArguments
  | mappingRequired
  | incomplete
  | unsupported (conversion : Char) (index : Nat)
  | integerWidthRequired
  /-- A width given as an argument is beyond what can be counted. -/
  | argumentWidthTooLarge
  /-- A precision given as an argument is beyond what can be counted. -/
  | argumentPrecisionTooLarge
  | widthTooLarge
  | precisionTooLarge
  | integerPrecisionTooLarge
  | numberRequired (conversion : Char) (typeName : String)
  | integerRequired (conversion : Char) (typeName : String)
  | characterRequired
  | characterOutOfRange
  /-- A mark for no number where an integer is needed, a decimal one or not. -/
  | integerOfNaN (decimal : Bool)
  /-- An infinite number where an integer is needed, a decimal one or not. -/
  | integerOfInfinity (decimal : Bool)
  | tooManyDigits
  /-- An argument that is no real number stands where one is needed. -/
  | notReal (fault : Fault)
deriving DecidableEq, Repr

namespace Defect

/-- The family of a defect. -/
def family
    : Defect → FaultFamily
  | .tooFewArguments | .tooManyArguments | .mappingRequired | .integerWidthRequired
  | .numberRequired .. | .integerRequired .. | .characterRequired => .type
  | .incomplete | .unsupported .. | .widthTooLarge | .precisionTooLarge | .integerOfNaN _
  | .tooManyDigits => .value
  | .characterOutOfRange | .integerOfInfinity _
  | .argumentWidthTooLarge | .argumentPrecisionTooLarge | .integerPrecisionTooLarge => .overflow
  | .notReal fault => fault.family

/-- A conversion character as a message shows it. -/
def shownConversion (c : Char)
    : String :=
  String.singleton (if 31 ≤ c.toNat ∧ c.toNat ≤ 126 then c else '?')

/-- The wording of a defect. -/
def message
    : Defect → String
  | .tooFewArguments => "not enough arguments for format string"
  | .tooManyArguments => "not all arguments converted during string formatting"
  | .mappingRequired => "format requires a mapping"
  | .incomplete => "incomplete format"
  | .unsupported conversion index =>
      "unsupported format character '" ++ shownConversion conversion ++ "' (0x"
        ++ String.ofList (Nat.toDigits 16 conversion.toNat) ++ ") at index " ++ toString index
  | .integerWidthRequired => "* wants int"
  | .argumentWidthTooLarge => "Python int too large to convert to C ssize_t"
  | .argumentPrecisionTooLarge => "Python int too large to convert to C int"
  | .widthTooLarge => "width too big"
  | .precisionTooLarge => "precision too big"
  | .integerPrecisionTooLarge => "precision too large"
  | .numberRequired conversion typeName =>
      "%" ++ String.singleton conversion ++ " format: a real number is required, not "
        ++ typeName
  | .integerRequired conversion typeName =>
      "%" ++ String.singleton conversion ++ " format: an integer is required, not "
        ++ typeName
  | .characterRequired => "%c requires int or char"
  | .characterOutOfRange => "%c arg not in range(0x110000)"
  | .integerOfNaN decimal =>
      if decimal then "cannot convert NaN to integer"
      else "cannot convert float NaN to integer"
  | .integerOfInfinity decimal =>
      if decimal then "cannot convert Infinity to integer"
      else "cannot convert float infinity to integer"
  | .tooManyDigits =>
      "Exceeds the limit (4300 digits) for integer string conversion; "
        ++ "use sys.set_int_max_str_digits() to increase the limit"
  | .notReal fault => fault.message

end Defect

end Assay.Template
