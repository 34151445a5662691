import Assay.Record.Field
import Assay.Schema.Violation

/-!
Records that are built from named values: violations, reports and statistics. Every field is
checked, values that stand for a field's type are converted, and all that is wrong is told at once.
-/

namespace Assay.Record
open Number Reading

/-- The fields of a violation. -/
def violationFields : List String := ["location", "message"]

/-- A violation. -/
def readViolation (fields : Fields)
    : Reading Violation :=
  closed fields violationFields
    (both Violation.mk (optional fields "location" "" readText)
      (needed fields "message" readText))

/-- The violation that an item stands for. -/
def readItem
    : Value → Reading Violation
  | .object members => readViolation members
  | _ => wrong .modelType

/-- The violations that items stand for, the first of which has the index `index`. -/
def readItems
    : Nat → List Value → Reading (List Violation)
  | _, [] => .ok []
  | index, item :: rest =>
      both (· :: ·) (inside (.item index) (readItem item)) (readItems (index + 1) rest)

/-- A list of violations. -/
def readViolations
    : Value → Reading (List Violation)
  | .array _ items => readItems 0 items
  | .foreign .set => .ok []
  | _ => wrong .listType

/-- A report as it is told to others. -/
structure ReportRecord where
  valid : Bool
  errorCount : Int
  errors : List Violation
  duration : Binary64

/-- The fields of a report, its time among them. -/
def reportFields : List String :=
  ["valid", "error_count", "errors", "duration_ms", "validated_at"]

/-- A report. -/
def readReport (fields : Fields)
    : Reading ReportRecord :=
  let counts := both Prod.mk (needed fields "valid" readTruth)
    (optional fields "error_count" 0 readCount)
  let rest := both Prod.mk (optional fields "errors" [] readViolations)
    (optional fields "duration_ms" .zero readDuration)
  let record :=
    both (fun (valid, errorCount) (errors, duration) => ⟨valid, errorCount, errors, duration⟩)
      counts rest
  closed fields reportFields
    (both (fun record _ => record) record (optional fields "validated_at" () readMoment))

/-- Statistics as they are told to others. -/
structure StatisticsRecord where
  validated : Int
  valid : Int
  invalid : Int
  totalErrors : Int

/-- The fields of statistics, their time among them. -/
def statisticsFields : List String :=
  ["documents_validated", "documents_valid", "documents_invalid", "total_errors", "timestamp"]

/-- Statistics. -/
def readStatistics (fields : Fields)
    : Reading StatisticsRecord :=
  let count (name : String) := optional fields name 0 readCount
  let documents := both Prod.mk (count "documents_validated") (count "documents_valid")
  let rest := both Prod.mk (count "documents_invalid") (count "total_errors")
  let record :=
    both (fun (validated, valid) (invalid, totalErrors) =>
      ⟨validated, valid, invalid, totalErrors⟩) documents rest
  closed fields statisticsFields
    (both (fun record _ => record) record (optional fields "timestamp" () readMoment))

end Assay.Record
