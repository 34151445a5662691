import Assay.Record.Basic

/-!
Assigning to the fields of records once they are built.
-/

namespace Assay.Record

/-- The kinds of records. -/
inductive RecordKind where
  | violation
  | report
  | statistics
deriving DecidableEq, Repr

namespace RecordKind

/-- The name of a kind. -/
def className
    : RecordKind → String
  | .violation => "ErrorMessage"
  | .report => "ValidationReport"
  | .statistics => "ValidatorStatistics"

/-- The fields of a kind. -/
def fields
    : RecordKind → List String
  | .violation => violationFields
  | .report => reportFields
  | .statistics => statisticsFields

end RecordKind

/-- Why a field of a record cannot be assigned. -/
inductive AssignmentRefusal where
  | frozen (problem : Problem)
  | stopped (fault : Fault)

/-- What keeps a value from a name with an underscore in front. Such names are nobody's fields and
free, but a few of them have a meaning of their own. -/
def innerFault? (kind : RecordKind) (name : String) (value : Value)
    : Option Fault :=
  if name = "__dict__" then
    match value with
    | .object _ => none
    | _ => some (.notADictionary value.qualifiedTypeName)
  else if name = "__class__" then some (.notAClass value.qualifiedTypeName)
  else if name = "__weakref__" then some (.notWritable kind.className name)
  else if name = "__fields_set__" then some (.readOnly kind.className name)
  else none

/-- The names of what every record tells of itself, which can only be read. -/
def derivedNames : List String := ["model_extra", "model_fields_set"]

/-- Why a value cannot be assigned to a field. Violations never change; the other records take any
value for the fields they have. -/
def assignmentRefusal? (kind : RecordKind) (name : String) (value : Value)
    : Option AssignmentRefusal :=
  if name.startsWith "_" then (innerFault? kind name value).map .stopped
  else if kind = .violation then some (.frozen ⟨[.field name], .frozenInstance⟩)
  else if derivedNames.contains name then some (.stopped (.readOnly kind.className name))
  else if kind.fields.contains name then none
  else some (.stopped (.noField kind.className name))

end Assay.Record
