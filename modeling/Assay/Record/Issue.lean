/-!
What can be wrong with the fields that a record is built from. All problems of a value are told at
once, so two readings are put together with the problems of both.
-/

namespace Assay.Record

/-- A step to a field or an item that something is wrong with. -/
inductive Place where
  | field (name : String)
  | item (index : Nat)
deriving DecidableEq, Repr

/-- What is wrong with a field. -/
inductive Issue where
  | missing
  | extraForbidden
  | stringType
  | boolType
  | boolParsing
  | intType
  | intParsing
  | intParsingSize
  | intFromFloat
  | finiteNumber
  | floatType
  | floatParsing
  | greaterThanEqual
  | listType
  | datetimeType
  | datetimeParsing
  | datetimeFromDateParsing
  | modelType
  | frozenInstance
deriving DecidableEq, Repr

/-- The name of an issue. -/
def Issue.name
    : Issue → String
  | .missing => "missing"
  | .extraForbidden => "extra_forbidden"
  | .stringType => "string_type"
  | .boolType => "bool_type"
  | .boolParsing => "bool_parsing"
  | .intType => "int_type"
  | .intParsing => "int_parsing"
  | .intParsingSize => "int_parsing_size"
  | .intFromFloat => "int_from_float"
  | .finiteNumber => "finite_number"
  | .floatType => "float_type"
  | .floatParsing => "float_parsing"
  | .greaterThanEqual => "greater_than_equal"
  | .listType => "list_type"
  | .datetimeType => "datetime_type"
  | .datetimeParsing => "datetime_parsing"
  | .datetimeFromDateParsing => "datetime_from_date_parsing"
  | .modelType => "model_type"
  | .frozenInstance => "frozen_instance"

/-- An issue and where it is. -/
structure Problem where
  places : List Place
  issue : Issue
deriving DecidableEq, Repr

/-- What a value is read as, or all that is wrong with it. -/
abbrev Reading (α : Type) : Type :=
  Except (List Problem) α

namespace Reading

variable {α β γ : Type}

/-- A single issue of the value itself. -/
def wrong (issue : Issue)
    : Reading α :=
  .error [⟨[], issue⟩]

/-- A reading seen from one step further up. -/
def inside (place : Place)
    : Reading α → Reading α
  | .ok value => .ok value
  | .error problems =>
      .error (problems.map fun problem => { problem with places := place :: problem.places })

/-- Two readings, with the problems of both. -/
def both (f : α → β → γ)
    : Reading α → Reading β → Reading γ
  | .ok a, .ok b => .ok (f a b)
  | .ok _, .error problems => .error problems
  | .error problems, .ok _ => .error problems
  | .error first, .error second => .error (first ++ second)

end Reading

end Assay.Record
