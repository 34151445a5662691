import Assay.Value.JsonText
import Assay.Value.Kind

/-!
Violations: what in a document does not conform to a schema, and where.
-/

namespace Assay

/-- One step of a path in a document, or a text put before a location as it is. -/
inductive Segment where
  | index (index : Int)
  | member (name : String)
  | verbatim (text : String)
deriving DecidableEq, Repr

/-- A segment as part of a location. -/
def Segment.text
    : Segment → String
  | .index n => "[" ++ toString n ++ "]"
  | .member name => "." ++ name
  | .verbatim text => text

/-- What is wrong with a value. -/
inductive Complaint where
  /-- The value is not of a simple type. -/
  | notOfType (type : SimpleType)
  /-- The value is none of those enumerated. -/
  | notAmong (value : Value) (members : List Value)
  /-- No part of the text matches the pattern. -/
  | noMatch (value : Value) (source : String)
  | tooLong (value : Value) (length limit : Nat)
  | tooShort (value : Value) (length limit : Nat)
  /-- The number is below a bound, or equal to one that is excluded. -/
  | below (value : Value) (bound : Number) (exclusive : Bool)
  /-- The number is above a bound, or equal to one that is excluded. -/
  | above (value : Value) (bound : Number) (exclusive : Bool)
  | notInFormat (value : Value) (format : String)
  | notArray
  | tooManyItems (size limit : Nat)
  | tooFewItems (size limit : Nat)
  | notObject
  | missing (name : String)
  | unexpected (name : String)

/-- The wording of a complaint. -/
def Complaint.message
    : Complaint → String
  | .notOfType type => "Invalid type: must be a " ++ type.word
  | .notAmong value members =>
      "Value " ++ value.rendered ++ " must be one of: ["
        ++ ", ".intercalate (members.map (·.rendered)) ++ "]"
  | .noMatch value source =>
      "String " ++ value.rendered ++ " does not match regex pattern '" ++ source ++ "'"
  | .tooLong value length limit =>
      "String " ++ value.rendered ++ " has length " ++ toString length
        ++ ", which is greater than maxLength " ++ toString limit
  | .tooShort value length limit =>
      "String " ++ value.rendered ++ " has length " ++ toString length
        ++ ", which is less than minLength " ++ toString limit
  | .below value bound exclusive =>
      if exclusive then
        "Value " ++ value.rendered ++ " must be greater than minimum " ++ bound.rendered
          ++ " (exclusiveMinimum)"
      else "Value " ++ value.rendered ++ " is less than minimum " ++ bound.rendered
  | .above value bound exclusive =>
      if exclusive then
        "Value " ++ value.rendered ++ " must be less than maximum " ++ bound.rendered
          ++ " (exclusiveMaximum)"
      else "Value " ++ value.rendered ++ " is greater than maximum " ++ bound.rendered
  | .notInFormat value format =>
      "Value " ++ value.rendered ++ " is not a valid " ++ format
  | .notArray => "Invalid type: must be an array"
  | .tooManyItems size limit =>
      "Current array size of " ++ toString size
        ++ " is greater than allowed maximum array size of " ++ toString limit
  | .tooFewItems size limit =>
      "Current array size of " ++ toString size
        ++ " is less than allowed minimum array size of " ++ toString limit
  | .notObject => "Invalid type: must be an object"
  | .missing name => "Missing required property '" ++ name ++ "'"
  | .unexpected name => "Unexpected property '" ++ name ++ "'"

/-- A failure to conform, at a location relative to the document that was checked. -/
structure Violation where
  location : String
  message : String
deriving DecidableEq, Repr, Inhabited

namespace Violation

/-- A complaint about the document itself. -/
def ofComplaint (complaint : Complaint)
    : Violation :=
  ⟨"", complaint.message⟩

/-- A violation seen from one step further up. -/
def nested (segment : Segment) (violation : Violation)
    : Violation :=
  { violation with location := segment.text ++ violation.location }

/-- Violations seen from one step further up, in the same order. -/
def nestAll (segment : Segment) (violations : List Violation)
    : List Violation :=
  violations.map (·.nested segment)

@[simp] theorem nestAll_eq_nil_iff {segment : Segment} {violations : List Violation}
    : nestAll segment violations = [] ↔ violations = [] := by
  simp [nestAll]

/-- A violation on one line. -/
def line (violation : Violation)
    : String :=
  (if violation.location.isEmpty then "<root>" else violation.location) ++ ": "
    ++ violation.message

end Violation

/-- A check of documents: the violations in order, or the fault that stopped it. -/
abbrev Checker : Type :=
  Value → Except Fault (List Violation)

end Assay
