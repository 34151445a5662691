import Assay.Value.Basic

/-!
Values where a real number is asked for: which of them stand for one, and how one compares with a
real.
-/

namespace Assay.Value

/-- The binary number that a value stands for. A truth value counts as zero or one, and an integer
must not be beyond the greatest binary number. -/
def real
    : Value → Except Fault Binary64
  | .bool value => .ok (if value then .ofRatio false 1 1 else .zero)
  | .number (.int value) =>
      match Binary64.ofRatio (value < 0) value.natAbs 1 with
      | .infinite _ => .error .integerTooLargeForReal
      | real => .ok real
  | .number (.float value) => .ok value
  | .number (.decimal value) =>
      match value.toBinary64? with
      | some real => .ok real
      | none => .error .realOfSignalling
  | value => .error (.realRequired value.qualifiedTypeName)

/-- Whether a real is greater than a value, by exact value. -/
def isExceededBy (value : Value) (real : Binary64)
    : Except Fault Bool :=
  match value with
  | .bool value => (Number.float real).greater (.int (if value then 1 else 0))
  | .number limit => (Number.float real).greater limit
  | value => .error (.incomparable ">" (Value.number (.float real)).typeName
      value.qualifiedTypeName)

end Assay.Value
