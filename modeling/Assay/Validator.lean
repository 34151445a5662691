import Assay.Configuration
import Assay.Definition.Compile
import Assay.Definition.Trace
import Assay.Metrics
import Assay.Store.Workspace
import Assay.Value.Real

/-!
The validator: it checks documents against schemas or definitions, keeps statistics, counts what it
does and writes log records.
-/

namespace Assay

/-- What a validator has done since its statistics were reset. -/
structure Statistics where
  validated : Nat := 0
  valid : Nat := 0
  invalid : Nat := 0
  totalErrors : Nat := 0
deriving DecidableEq, Repr

/-- Statistics with one more validation, by its violations. -/
def Statistics.counting (statistics : Statistics) (violations : List Violation)
    : Statistics where
  validated := statistics.validated + 1
  valid := statistics.valid + (if violations.isEmpty then 1 else 0)
  invalid := statistics.invalid + (if violations.isEmpty then 0 else 1)
  totalErrors := statistics.totalErrors + violations.length

/-- What a validation reports. -/
structure Report where
  valid : Bool
  errorCount : Nat
  errors : List Violation
deriving DecidableEq, Repr

/-- The report of violations. -/
def Report.ofViolations (violations : List Violation)
    : Report where
  valid := violations.isEmpty
  errorCount := violations.length
  errors := violations

/-- How long a validation took, on two scales. -/
structure Elapsed where
  seconds : Binary64
  milliseconds : Binary64

/-- What a document can be checked against. -/
inductive Subject where
  | node (kind : SchemaKind) (check : Checker)
  | definition (definition : Value)
  | nonsense (typeName : String)

/-- What a value stands for where a schema or a definition is expected. -/
def Workspace.subject (workspace : Workspace)
    : Value → Subject
  | .foreign (.node handle className text) =>
      match workspace.store.get? handle with
      | some cell => .node cell.kind (workspace.store.check workspace.formats handle)
      | none => .nonsense (Value.foreign (.node handle className text)).typeName
  | .object members => .definition (.object members)
  | value => .nonsense value.typeName

/-- What definitions are compiled with under a configuration. -/
def Configuration.setting (configuration : Configuration) (formats : FormatRegistry)
    : Definition.Setting :=
  { strictFormats := configuration.strictFormats.isTruthy, registry := defaultRegistry, formats }

/-- A compilation under a configuration, which is counted if it succeeds. -/
def Configuration.compile (configuration : Configuration) (formats : FormatRegistry)
    (metrics : Metrics) (definition : Value)
    : Definition.Assembly Schema × Metrics :=
  let assembly := Definition.compile (configuration.setting formats) definition
  let metrics := match assembly.outcome with
    | .ok schema =>
        if configuration.enableMetrics.isTruthy then metrics.recordCompiled schema.kind.word
        else metrics
    | .error _ => metrics
  (assembly, metrics)

/-- A validator with its configuration and its statistics. -/
structure Validator where
  configuration : Configuration
  statistics : Statistics := {}

/-- The outcome of a call of a validator, its log records, and what has become of the validator and
the metrics. -/
structure Run (α : Type) where
  outcome : Except Definition.Obstruction α
  records : List LogRecord
  validator : Validator
  metrics : Metrics

namespace Validator

/-- The words for a new validator. -/
def startText (configuration : Configuration)
    : Except Fault String := do
  let limit ← configuration.slowValidation.real
  return "SchemaValidator initialised: metrics=" ++ configuration.enableMetrics.display
    ++ ", slow_validation_ms=" ++ limit.fixed 1

/-- A new validator, which gives the logger its level; the records that are kept are those of the
level at the time. -/
def start (configuration : Configuration) (logger : Logger)
    : Except Fault (Validator × Logger × List LogRecord) := do
  let (levelled, warnings) ← configuration.applyLevel logger
  let records ← levelled.write .validator .info (startText configuration)
  return ({ configuration }, levelled, logger.keep warnings ++ records)

/-- The record of a validation. -/
def outcomeRecord (kind : SchemaKind) (violations : List Violation) (elapsed : Elapsed)
    : LogRecord :=
  let time := "(" ++ elapsed.milliseconds.fixed 1 ++ " ms)"
  match violations with
  | [] => ⟨.validator, .debug, "Validated " ++ kind.word ++ " document: valid " ++ time⟩
  | first :: _ =>
      ⟨.validator, .info, "Validated " ++ kind.word ++ " document: "
        ++ toString violations.length ++ " errors, first at '" ++ first.location ++ "' " ++ time⟩

/-- The words for a validation that took longer than it should. -/
def slowText (limit : Value) (elapsed : Elapsed)
    : Except Fault String := do
  let limit ← limit.real
  return "Slow validation: " ++ elapsed.milliseconds.fixed 1 ++ " ms exceeds threshold of "
    ++ limit.fixed 1 ++ " ms"

/-- The warning about a validation that took longer than it should, none if it did not. -/
def slowRecords (logger : Logger) (limit : Value) (elapsed : Elapsed)
    : Except Fault (List LogRecord) := do
  if ← limit.isExceededBy elapsed.milliseconds then
    logger.write .validator .warning (slowText limit elapsed)
  else return []

/-- A validation of a document that has been checked: it enters the statistics and, if they are
kept, the metrics. -/
def conclude (validator : Validator) (logger : Logger) (metrics : Metrics) (kind : SchemaKind)
    (violations : List Violation) (elapsed : Elapsed)
    : Run Report :=
  let counted := { validator with statistics := validator.statistics.counting violations }
  let metrics :=
    if validator.configuration.enableMetrics.isTruthy then
      (metrics.recordValidation violations.isEmpty violations.length elapsed.seconds).2
    else metrics
  let record := outcomeRecord kind violations elapsed
  match slowRecords logger validator.configuration.slowValidation elapsed with
  | .error fault => ⟨.error (.stopped fault), [record], counted, metrics⟩
  | .ok warnings => ⟨.ok (Report.ofViolations violations), record :: warnings, counted, metrics⟩

/-- A check of a document, concluded unless a fault stops it. -/
def checked (validator : Validator) (logger : Logger) (metrics : Metrics) (kind : SchemaKind)
    (check : Checker) (document : Value) (elapsed : Elapsed)
    : Run Report :=
  match check document with
  | .ok violations => validator.conclude logger metrics kind violations elapsed
  | .error fault => ⟨.error (.stopped fault), [], validator, metrics⟩

/-- Validates a document; a definition is compiled first. -/
def validate (validator : Validator) (logger : Logger) (metrics : Metrics)
    (formats : Registries) (document : Value) (subject : Subject) (elapsed : Elapsed)
    : Run Report :=
  match subject with
  | .nonsense typeName => ⟨.error (.stopped (.notASchema typeName)), [], validator, metrics⟩
  | .node kind check => validator.checked logger metrics kind check document elapsed
  | .definition definition =>
      let (assembly, metrics) :=
        validator.configuration.compile (formats defaultRegistry) metrics definition
      match assembly.outcome with
      | .error obstruction => ⟨.error obstruction, assembly.records, validator, metrics⟩
      | .ok schema =>
          let run :=
            validator.checked logger metrics schema.kind (schema.check formats) document elapsed
          { run with records := assembly.records ++ run.records }

/-- Whether a document conforms: what the report of its validation says. -/
def isValid (validator : Validator) (logger : Logger) (metrics : Metrics)
    (formats : Registries) (document : Value) (subject : Subject) (elapsed : Elapsed)
    : Run Bool :=
  let run := validator.validate logger metrics formats document subject elapsed
  ⟨run.outcome.map (·.valid), run.records, run.validator, run.metrics⟩

/-- The validator with its statistics reset. -/
def reset (validator : Validator)
    : Validator × List LogRecord :=
  ({ validator with statistics := {} },
    [⟨.validator, .debug, "SchemaValidator statistics reset"⟩])

end Validator

end Assay
