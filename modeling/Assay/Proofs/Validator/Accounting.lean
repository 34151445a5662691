import Assay.Proofs.Validator.Growth

/-! Calls of one validator in a row, and what has been counted behind them. Its statistics are the
totals of the calls since the last reset that have returned, and the metrics grow by the totals of
all calls that have returned; a call that does not return is counted in neither.
-/

namespace Assay

-----------------------------------------------------------------------------------------
-- Calls
-----------------------------------------------------------------------------------------

/-- What a validation is asked for with: the logger as it is then, the formats that are registered,
the document and what to check it against, and how long it takes. A clock shows numbers. -/
structure Inquiry where
  logger : Logger
  formats : Registries
  document : Value
  subject : Subject
  elapsed : Elapsed
  measured : ∀ object, elapsed.seconds ≠ .nan object

/-- A call of a validator. -/
inductive Call where
  | validate (inquiry : Inquiry)
  | isValid (inquiry : Inquiry)
  | reset

/-- What a call returns. -/
inductive Answer where
  | report (report : Report)
  | verdict (valid : Bool)
  | done
deriving DecidableEq

namespace Inquiry

/-- The schema that an inquiry has compiled, if it comes with a definition that can be. -/
def compiled? (configuration : Configuration) (inquiry : Inquiry)
    : Option Schema :=
  match inquiry.subject with
  | .definition definition =>
      let setting := configuration.setting (inquiry.formats defaultRegistry)
      (Definition.compile setting definition).outcome.toOption
  | .node _ _ | .nonsense _ => none

/-- The check that an inquiry is for: that of its node, or that of the schema compiled for it. -/
def check? (configuration : Configuration) (inquiry : Inquiry)
    : Option Checker :=
  match inquiry.subject with
  | .node _ check => some check
  | .definition _ => (inquiry.compiled? configuration).map (·.check inquiry.formats)
  | .nonsense _ => none

/-- The violations that an inquiry finds, if it has a check and nothing stops it. -/
def found? (configuration : Configuration) (inquiry : Inquiry)
    : Option (List Violation) := do
  let check ← inquiry.check? configuration
  (check inquiry.document).toOption

end Inquiry

namespace Call

/-- The inquiry of a call, if it is for a validation. -/
def inquiry?
    : Call → Option Inquiry
  | .validate inquiry | .isValid inquiry => some inquiry
  | .reset => none

/-- The violations that a call finds, if it is for a validation that comes to its end. -/
def found? (configuration : Configuration) (call : Call)
    : Option (List Violation) :=
  call.inquiry?.bind (·.found? configuration)

/-- The schema that a call has compiled. -/
def compiled? (configuration : Configuration) (call : Call)
    : Option Schema :=
  call.inquiry?.bind (·.compiled? configuration)

/-- What a call has to return, if it returns. -/
def answer? (configuration : Configuration)
    : Call → Option Answer
  | .validate inquiry => (inquiry.found? configuration).map (.report ∘ Report.ofViolations)
  | .isValid inquiry => (inquiry.found? configuration).map (.verdict ∘ List.isEmpty)
  | .reset => some .done

/-- Whether a call is for a reset. -/
def isReset
    : Call → Bool
  | .reset => true
  | .validate _ | .isValid _ => false

end Call

namespace Validator

/-- One call of a validator. -/
def call (validator : Validator) (metrics : Metrics)
    : Call → Run Answer
  | .validate inquiry =>
      let run := validator.validate inquiry.logger metrics inquiry.formats inquiry.document
        inquiry.subject inquiry.elapsed
      { run with outcome := run.outcome.map .report }
  | .isValid inquiry =>
      let run := validator.isValid inquiry.logger metrics inquiry.formats inquiry.document
        inquiry.subject inquiry.elapsed
      { run with outcome := run.outcome.map .verdict }
  | .reset => ⟨.ok .done, validator.reset.2, validator.reset.1, metrics⟩

/-- What has become of a validator and the metrics after calls in a row. -/
def after (validator : Validator) (metrics : Metrics) (calls : List Call)
    : Validator × Metrics :=
  calls.foldl (fun (validator, metrics) call =>
    let run := validator.call metrics call
    (run.validator, run.metrics)) (validator, metrics)

end Validator

-----------------------------------------------------------------------------------------
-- One call
-----------------------------------------------------------------------------------------

/-- A run of a validator accounts for what has been found and compiled in it. It returns the answer
to what has been found, which enters the statistics and the metrics, and without a finding it does
not return and leaves the validator as it was. -/
structure Run.AccountsFor {α : Type} (run : Run α) (settings : Configuration.Settings)
    (validator : Validator) (metrics : Metrics) (found? : Option (List Violation))
    (compiled? : Option Schema) (answer : List Violation → α) : Prop where
  outcome : run.outcome.toOption = found?.map answer
  validator
    : run.validator =
        { validator with statistics := validator.statistics + .total found?.toList }
  metrics
    : metrics.Grown settings.enableMetrics found?.toList compiled?.toList run.metrics

theorem toOption_map {ε α β : Type} (outcome : Except ε α) (form : α → β)
    : (outcome.map form).toOption = outcome.toOption.map form := by
  cases outcome <;> rfl

namespace Validator

/-- The warning about a slow validation can always be made where the limit is a binary number, as
binary numbers can always be compared and written. -/
theorem slowRecords_ofSettings (logger : Logger) (settings : Configuration.Settings)
    (elapsed : Elapsed)
    : ∃ warnings,
        slowRecords logger (Configuration.ofSettings settings).slowValidation elapsed
          = .ok warnings := by
  have compared
      : ∃ exceeded,
          (Value.number (.float settings.slowValidation)).isExceededBy elapsed.milliseconds
            = .ok exceeded := by
    simp only [Value.isExceededBy, Number.greater, Number.compared]
    split
    · exact ⟨_, rfl⟩
    · exact ⟨_, rfl⟩
  obtain ⟨exceeded, compared⟩ := compared
  simp only [slowRecords, Configuration.ofSettings, compared, ok_bind]
  cases exceeded with
  | false => exact ⟨[], rfl⟩
  | true =>
      simp only [if_true, Logger.write, slowText, Value.real]
      split
      · exact ⟨_, rfl⟩
      · exact ⟨_, rfl⟩

/-- Settings always start a validator, whether or not a level goes by the name that they have. -/
theorem start_ofSettings (settings : Configuration.Settings) (logger : Logger)
    : ∃ levelled records,
        start (.ofSettings settings) logger
          = .ok ({ configuration := .ofSettings settings }, levelled, records) := by
  have levels
      : ∃ levelled warnings,
          (Configuration.ofSettings settings).applyLevel logger = .ok (levelled, warnings) := by
    cases level : Logger.levelOf? settings.logLevel <;>
      simp [Configuration.applyLevel, Configuration.levelOf?, Configuration.ofSettings, Value.text?,
        level, pure, Except.pure]
  obtain ⟨levelled, warnings, applied⟩ := levels
  have written
      : ∃ records,
          levelled.write .validator .info (startText (.ofSettings settings)) = .ok records := by
    unfold Logger.write
    split
    · exact ⟨_, rfl⟩
    · exact ⟨_, rfl⟩
  obtain ⟨records, written⟩ := written
  refine ⟨levelled, logger.keep warnings ++ records, ?_⟩
  simp only [start, applied, ok_bind, written, pure, Except.pure]

section

variable {settings : Configuration.Settings} {validator : Validator} (metrics : Metrics)
  (configured : validator.configuration = .ofSettings settings)

include configured

/-- A document that has been checked accounts for the violations found, since no warning can fail
behind it. -/
theorem conclude_accountsFor (logger : Logger) (kind : SchemaKind) (violations : List Violation)
    {elapsed : Elapsed} (measured : ∀ object, elapsed.seconds ≠ .nan object)
    : (validator.conclude logger metrics kind violations elapsed).AccountsFor settings validator
        metrics (some violations) none Report.ofViolations := by
  obtain ⟨warnings, warned⟩ := slowRecords_ofSettings logger settings elapsed
  simp only [conclude, configured, warned]
  exact {
    outcome := rfl
    validator := by rw [Statistics.counting_eq_add_total, configured]; rfl
    metrics := .ofValidation metrics measured violations }

/-- A check accounts for what it returns. -/
theorem checked_accountsFor (logger : Logger) (kind : SchemaKind) (check : Checker)
    (document : Value) {elapsed : Elapsed} (measured : ∀ object, elapsed.seconds ≠ .nan object)
    : (validator.checked logger metrics kind check document elapsed).AccountsFor settings validator
        metrics (check document).toOption none Report.ofViolations := by
  unfold checked
  cases check document with
  | error fault => exact { outcome := rfl, validator := rfl, metrics := .refl metrics }
  | ok violations => exact conclude_accountsFor metrics configured logger kind violations measured

/-- A validation accounts for what its inquiry finds and compiles. What it comes to is settled by
what the document is checked against, and a schema counts as compiled whatever comes of its
check. -/
theorem validate_accountsFor (inquiry : Inquiry)
    : (validator.validate inquiry.logger metrics inquiry.formats inquiry.document inquiry.subject
        inquiry.elapsed).AccountsFor settings validator metrics
          (inquiry.found? (.ofSettings settings)) (inquiry.compiled? (.ofSettings settings))
          Report.ofViolations := by
  obtain ⟨logger, formats, document, subject, elapsed, measured⟩ := inquiry
  cases subject with
  | nonsense typeName => exact { outcome := rfl, validator := rfl, metrics := .refl metrics }
  | node kind check =>
      exact checked_accountsFor metrics configured logger kind check document measured
  | definition definition =>
      simp only [validate, Configuration.compile, configured, Inquiry.found?, Inquiry.check?,
        Inquiry.compiled?]
      cases compiled
          : (Definition.compile ((Configuration.ofSettings settings).setting
              (formats defaultRegistry)) definition).outcome with
      | error obstruction =>
          exact { outcome := rfl, validator := rfl, metrics := .refl metrics }
      | ok schema =>
          let counted :=
            if settings.enableMetrics then metrics.recordCompiled schema.kind.word else metrics
          have grown : metrics.Grown settings.enableMetrics [] [schema] counted :=
            .ofCompilation metrics schema
          have checked := checked_accountsFor counted configured logger schema.kind
            (schema.check formats) document measured
          exact {
            outcome := checked.outcome
            validator := checked.validator
            metrics := grown.trans checked.metrics }

/-- One call accounts for what it finds and compiles; a reset finds nothing, returns, and starts the
statistics anew. -/
theorem call_spec (call : Call)
    : let run := validator.call metrics call
      run.outcome.toOption = call.answer? (.ofSettings settings)
      ∧ run.validator =
          { validator with
            statistics :=
              if call.isReset then {}
              else validator.statistics + .total (call.found? (.ofSettings settings)).toList }
      ∧ metrics.Grown settings.enableMetrics (call.found? (.ofSettings settings)).toList
          (call.compiled? (.ofSettings settings)).toList run.metrics := by
  cases call with
  | reset => exact ⟨rfl, rfl, .refl metrics⟩
  | validate inquiry =>
      have run := validate_accountsFor metrics configured inquiry
      refine ⟨?_, run.validator, run.metrics⟩
      simp only [Validator.call, toOption_map, run.outcome, Call.answer?, Option.map_map]
  | isValid inquiry =>
      have run := validate_accountsFor metrics configured inquiry
      refine ⟨?_, run.validator, run.metrics⟩
      simp only [Validator.call, isValid, toOption_map, run.outcome, Call.answer?, Option.map_map]
      rfl

/-- A call that does not return leaves the validator as it was. -/
theorem validator_of_failure {call : Call} {obstruction : Definition.Obstruction}
    (failed : (validator.call metrics call).outcome = .error obstruction)
    : (validator.call metrics call).validator = validator := by
  obtain ⟨answered, left, -⟩ := call_spec metrics configured call
  rw [failed] at answered
  have unanswered : call.answer? (.ofSettings settings) = none := answered.symm
  rw [left]
  cases call with
  | reset => nomatch unanswered
  | validate inquiry =>
      have nothing : inquiry.found? (.ofSettings settings) = none := by
        simpa [Call.answer?] using unanswered
      simp [Call.isReset, Call.found?, Call.inquiry?, nothing]
  | isValid inquiry =>
      have nothing : inquiry.found? (.ofSettings settings) = none := by
        simpa [Call.answer?] using unanswered
      simp [Call.isReset, Call.found?, Call.inquiry?, nothing]

end

end Validator

-----------------------------------------------------------------------------------------
-- Calls in a row
-----------------------------------------------------------------------------------------

/-- The calls since the last reset, all of them if there was none. -/
def Call.sinceReset (calls : List Call)
    : List Call :=
  calls.rtakeWhile (!·.isReset)

/-- The books are in order after calls: the statistics are the totals of what the calls since the
last reset have found, each further call returns what it finds and changes nothing if it does not
return, and the metrics have grown by what all the calls have found and compiled. -/
structure Validator.BooksInOrder (settings : Configuration.Settings) (start : Metrics)
    (calls : List Call) (validator : Validator) (metrics : Metrics) : Prop where
  configuration : validator.configuration = .ofSettings settings
  statistics
    : validator.statistics =
        .total ((Call.sinceReset calls).filterMap (·.found? (.ofSettings settings)))
  split
    : validator.statistics.validated = validator.statistics.valid + validator.statistics.invalid
  errors : validator.statistics.invalid ≤ validator.statistics.totalErrors
  returns
    : ∀ call,
        (validator.call metrics call).outcome.toOption = call.answer? (.ofSettings settings)
  failure
    : ∀ call obstruction, (validator.call metrics call).outcome = .error obstruction →
        (validator.call metrics call).validator = validator
  metrics
    : start.Grown settings.enableMetrics (calls.filterMap (·.found? (.ofSettings settings)))
        (calls.filterMap (·.compiled? (.ofSettings settings))) metrics

namespace Validator

theorem after_concat (validator : Validator) (metrics : Metrics) (calls : List Call) (call : Call)
    : validator.after metrics (calls ++ [call]) =
        let run := (validator.after metrics calls).1.call (validator.after metrics calls).2 call
        (run.validator, run.metrics) := by
  simp only [after, List.foldl_append, List.foldl_cons, List.foldl_nil]

/-- Calls since a reset go on to the next one, which is dropped only if it is a reset itself. -/
theorem statistics_concat (configuration : Configuration) (calls : List Call) (call : Call)
    : Statistics.total
        ((Call.sinceReset (calls ++ [call])).filterMap (·.found? configuration)) =
        if call.isReset then {}
        else
          .total ((Call.sinceReset calls).filterMap (·.found? configuration))
            + .total (call.found? configuration).toList := by
  cases reset : call.isReset with
  | true =>
      have dropped : Call.sinceReset (calls ++ [call]) = [] := by
        exact List.rtakeWhile_concat_neg _ _ _ (by simp [reset])
      rw [dropped]
      rfl
  | false =>
      have kept : Call.sinceReset (calls ++ [call]) = Call.sinceReset calls ++ [call] := by
        exact List.rtakeWhile_concat_pos _ _ _ (by simp [reset])
      rw [kept, List.filterMap_append, Statistics.total_append]
      cases found : call.found? configuration with
      | none => simp [found]
      | some violations => simp [found]

/-- What the calls of a new validator have come to, by induction on them from the last one back.
Each is settled by what the ones before it have left. -/
theorem after_invariant (settings : Configuration.Settings) (metrics : Metrics)
    (calls : List Call)
    : let state := after { configuration := .ofSettings settings } metrics calls
      state.1 =
        { configuration := .ofSettings settings
          statistics :=
            .total ((Call.sinceReset calls).filterMap (·.found? (.ofSettings settings))) }
      ∧ metrics.Grown settings.enableMetrics (calls.filterMap (·.found? (.ofSettings settings)))
          (calls.filterMap (·.compiled? (.ofSettings settings))) state.2 := by
  induction calls using List.reverseRecOn with
  | nil => exact ⟨rfl, .refl metrics⟩
  | append_singleton calls call ih =>
      obtain ⟨before, grown⟩ := ih
      obtain ⟨-, left, further⟩ :=
        call_spec (after { configuration := .ofSettings settings } metrics calls).2
          (congrArg Validator.configuration before) call
      simp only [after_concat, List.filterMap_append]
      constructor
      · rw [left, statistics_concat, before]
      · have step := grown.trans further
        cases found : call.found? (.ofSettings settings) <;>
          cases compiled : call.compiled? (.ofSettings settings) <;>
            simpa [found, compiled] using step

/-- Whatever calls a new validator has had, its books are in order. -/
theorem after_booksInOrder (settings : Configuration.Settings) (metrics : Metrics)
    (calls : List Call)
    : let state := after { configuration := .ofSettings settings } metrics calls
      BooksInOrder settings metrics calls state.1 state.2 := by
  obtain ⟨state, grown⟩ := after_invariant settings metrics calls
  have configured := congrArg Validator.configuration state
  have counted := congrArg Validator.statistics state
  exact {
    configuration := configured
    statistics := counted
    split := by rw [counted]; exact Statistics.total_validated _
    errors := by rw [counted]; exact Statistics.total_invalid_le _
    returns := fun call => (call_spec _ configured call).1
    failure := fun call obstruction failed => validator_of_failure _ configured failed
    metrics := grown }

/-- A validator can be started with any settings, and its books are in order after whatever calls
it gets then. -/
theorem started_booksInOrder (settings : Configuration.Settings) (logger : Logger)
    : ∃ validator levelled records,
        start (.ofSettings settings) logger = .ok (validator, levelled, records)
        ∧ ∀ metrics calls,
            let state := validator.after metrics calls
            BooksInOrder settings metrics calls state.1 state.2 := by
  obtain ⟨levelled, records, started⟩ := start_ofSettings settings logger
  exact ⟨_, levelled, records, started, after_booksInOrder settings⟩

end Validator

end Assay
