import Assay.Proofs.Definition.Verdicts
import Assay.Proofs.Store.Readback
import Assay.Proofs.Validator.Accounting

/-! A definition that is compiled for every validation, and one that has been compiled before all of
them. To whoever asks for the validations both come to the same, whatever the clock shows in the two
runs.
-/

namespace Assay

-----------------------------------------------------------------------------------------
-- Compiled definitions as subjects
-----------------------------------------------------------------------------------------

namespace Workspace

/-- The root of a compiled tree, under the name that it has been given. -/
def compiledNode (workspace : Workspace) (name : String) (schema : Schema)
    : Value :=
  (workspace.bindTree name schema).valueOf (workspace.store.addTree schema).1

/-- What has been compiled stands for the kind and the check of the compiled tree. -/
theorem subject_compiledNode (workspace : Workspace) (name : String) (schema : Schema)
    : (workspace.bindTree name schema).subject (workspace.compiledNode name schema)
      = .node schema.kind (schema.check workspace.formats) := by
  have tree := Store.readsBack_addTree schema workspace.store
  obtain ⟨cell, found, kind⟩ := Store.kind_of_tree? tree
  have check
      : (workspace.store.addTree schema).2.check workspace.formats
            (workspace.store.addTree schema).1
          = schema.check workspace.formats :=
    Store.check_eq_of_unfoldTo tree
  simp only [subject, compiledNode, valueOf, bindTree, bind, found, kind]
  exact congrArg (Subject.node schema.kind) check

end Workspace

-----------------------------------------------------------------------------------------
-- Validations of one subject
-----------------------------------------------------------------------------------------

/-- A document that is to be validated, with the logger as it is then and how long its check takes.
A clock shows numbers. -/
structure Trial where
  logger : Logger
  document : Value
  elapsed : Elapsed
  measured : ∀ object, elapsed.seconds ≠ .nan object

namespace Trial

/-- The call for the validation of a document against a subject. -/
def call (formats : Registries) (subject : Subject) (trial : Trial)
    : Call :=
  .validate ⟨trial.logger, formats, trial.document, subject, trial.elapsed, trial.measured⟩

/-- What the checks of documents find, without those that do not return. -/
def findings (check : Checker) (trials : List Trial)
    : List (List Violation) :=
  trials.filterMap fun trial => (check trial.document).toOption

/-- The findings are settled by the documents. -/
theorem findings_of_documents {trials others : List Trial}
    (documents : trials.map (·.document) = others.map (·.document)) (check : Checker)
    : findings check trials = findings check others := by
  have mapped (trials : List Trial)
      : findings check trials
        = (trials.map (·.document)).filterMap fun document => (check document).toOption := by
    rw [List.filterMap_map]
    rfl
  rw [mapped, mapped, documents]

/-- A document whose check takes no time. -/
def instant (document : Value)
    : Trial where
  logger := {}
  document
  elapsed := ⟨.finite false 0 0, .finite false 0 0⟩
  measured := nofun

end Trial

/-- What a validation returns once its document has been checked. -/
def Answer.ofChecked (checked : Except Fault (List Violation))
    : Except Definition.Obstruction Answer :=
  match checked with
  | .ok violations => .ok (.report (Report.ofViolations violations))
  | .error fault => .error (.stopped fault)

/-- A validation tells what the check of its document comes to: it fails with the same fault, or it
reports the violations as they have been found, counts them, and calls a document valid that has
none. -/
inductive Tells : Except Fault (List Violation) → Except Definition.Obstruction Answer → Prop
  | fault {fault} : Tells (.error fault) (.error (.stopped fault))
  | report {violations report} (errors : report.errors = violations)
    (count : report.errorCount = report.errors.length)
    (valid : report.valid = true ↔ report.errorCount = 0)
    : Tells (.ok violations) (.ok (.report report))

theorem tells_ofChecked (checked : Except Fault (List Violation))
    : Tells checked (Answer.ofChecked checked) := by
  cases checked with
  | error fault => exact .fault
  | ok violations => exact .report rfl rfl (by simp [Report.ofViolations])

-----------------------------------------------------------------------------------------
-- Metrics that differ in compilations
-----------------------------------------------------------------------------------------

namespace Metrics

/-- Metrics that differ at most in what has been compiled. -/
def AgreesButCompiled (first second : Metrics)
    : Prop :=
  first = { second with compiled := first.compiled }

namespace AgreesButCompiled

variable {first second : Metrics}

/-- A compilation that is counted in one of them only is the one thing in which they may differ. -/
theorem recordCompiled (agrees : first.AgreesButCompiled second) (kind : String)
    : (first.recordCompiled kind).AgreesButCompiled second := by
  unfold AgreesButCompiled at agrees ⊢
  rw [agrees]
  unfold Metrics.recordCompiled
  split <;> rfl

theorem recordValidation (agrees : first.AgreesButCompiled second) (valid : Bool) (count : Int)
    (duration : Binary64)
    : (first.recordValidation valid count duration).2.AgreesButCompiled
        (second.recordValidation valid count duration).2 := by
  unfold AgreesButCompiled at agrees ⊢
  rw [agrees]
  simp only [Metrics.recordValidation]
  split
  · rfl
  · split
    · cases valid <;> rfl
    · cases valid <;> rfl

end AgreesButCompiled

end Metrics

namespace Validator

-----------------------------------------------------------------------------------------
-- One validation
-----------------------------------------------------------------------------------------

section

variable {settings : Configuration.Settings} {validator : Validator} {formats : Registries}
  {definition : Value} {kind : SchemaKind} {check : Checker} {trial : Trial}
  (configured : validator.configuration = .ofSettings settings)

/-- The setting that a definition is compiled with. -/
abbrev settingOf (settings : Configuration.Settings) (formats : Registries)
    : Definition.Setting :=
  (Configuration.ofSettings settings).setting (formats defaultRegistry)

/-- The metrics with one more compilation, if they are kept. -/
def compiledOnce (settings : Configuration.Settings) (metrics : Metrics) (schema : Schema)
    : Metrics :=
  if settings.enableMetrics then metrics.recordCompiled schema.kind.word else metrics

include configured

/-- A validation of a node returns what its check comes to, whatever the clock shows and whatever
has been counted. -/
theorem call_node_outcome (metrics : Metrics)
    : (validator.call metrics (trial.call formats (.node kind check))).outcome
      = Answer.ofChecked (check trial.document) := by
  simp only [Trial.call, call, validate, checked, Answer.ofChecked]
  cases check trial.document with
  | error fault => rfl
  | ok violations =>
      obtain ⟨warnings, warned⟩ := slowRecords_ofSettings trial.logger settings trial.elapsed
      simp only [conclude, configured, warned]
      rfl

/-- A validation with a definition is one of the node that has been compiled from it, behind its
compilation. -/
theorem call_definition {schema : Schema}
    (compiled : (Definition.compile (settingOf settings formats) definition).outcome = .ok schema)
    (metrics : Metrics)
    : validator.call metrics (trial.call formats (.definition definition))
      = let run := validator.call (compiledOnce settings metrics schema)
          (trial.call formats (.node schema.kind (schema.check formats)))
        { run with
          records :=
            (Definition.compile (settingOf settings formats) definition).records
              ++ run.records } := by
  simp only [Trial.call, call, validate, Configuration.compile, configured, compiled]
  rfl

/-- A validation with a definition that cannot be compiled fails as the compilation does, and
nothing is counted. -/
theorem call_uncompiled {obstruction : Definition.Obstruction}
    (failed
      : (Definition.compile (settingOf settings formats) definition).outcome = .error obstruction)
    (metrics : Metrics)
    : validator.call metrics (trial.call formats (.definition definition))
      = ⟨.error obstruction, (Definition.compile (settingOf settings formats) definition).records,
          validator, metrics⟩ := by
  simp only [Trial.call, call, validate, Configuration.compile, configured, failed]
  rfl

end

/-- What has been counted before a validation of a node has no influence but on what has been
counted after it. -/
theorem call_node_metrics (validator : Validator) (metrics other : Metrics) (formats : Registries)
    (kind : SchemaKind) (check : Checker) (trial : Trial)
    : let run := validator.call metrics (trial.call formats (.node kind check))
      let again := validator.call other (trial.call formats (.node kind check))
      run.outcome = again.outcome
      ∧ run.records = again.records
      ∧ run.validator = again.validator := by
  simp only [Trial.call, call, validate, checked]
  cases check trial.document with
  | error fault => exact ⟨rfl, rfl, rfl⟩
  | ok violations =>
      simp only [conclude]
      cases slowRecords trial.logger validator.configuration.slowValidation trial.elapsed with
      | error fault | ok warnings => exact ⟨rfl, rfl, rfl⟩

/-- Compiling a definition first adds the records of the compilation to a validation, and changes
nothing that it returns or leaves behind but what has been counted. -/
theorem call_definition_step {settings : Configuration.Settings} {validator : Validator}
    {formats : Registries} {definition : Value} {schema : Schema}
    (configured : validator.configuration = .ofSettings settings)
    (compiled : (Definition.compile (settingOf settings formats) definition).outcome = .ok schema)
    (metrics other : Metrics) (trial : Trial)
    : let run := validator.call metrics (trial.call formats (.definition definition))
      let again :=
        validator.call other (trial.call formats (.node schema.kind (schema.check formats)))
      run.outcome = again.outcome
      ∧ run.records
        = (Definition.compile (settingOf settings formats) definition).records ++ again.records
      ∧ run.validator = again.validator := by
  obtain ⟨outcome, records, left⟩ := call_node_metrics validator
    (compiledOnce settings metrics schema) other formats schema.kind (schema.check formats) trial
  simp only [call_definition configured compiled]
  exact ⟨outcome, congrArg _ records, left⟩

theorem agrees_compiledOnce {metrics other : Metrics} (agrees : metrics.AgreesButCompiled other)
    (settings : Configuration.Settings) (schema : Schema)
    : (compiledOnce settings metrics schema).AgreesButCompiled other := by
  unfold compiledOnce
  split
  · exact agrees.recordCompiled _
  · exact agrees

theorem agrees_conclude {metrics other : Metrics} (agrees : metrics.AgreesButCompiled other)
    (validator : Validator) (logger : Logger) (kind : SchemaKind) (violations : List Violation)
    (elapsed : Elapsed)
    : (validator.conclude logger metrics kind violations elapsed).metrics.AgreesButCompiled
        (validator.conclude logger other kind violations elapsed).metrics := by
  have counted := agrees.recordValidation violations.isEmpty violations.length elapsed.seconds
  simp only [conclude]
  cases slowRecords logger validator.configuration.slowValidation elapsed with
  | error fault | ok warnings =>
      cases validator.configuration.enableMetrics.isTruthy with
      | false => exact agrees
      | true => exact counted

theorem agrees_call_node {metrics other : Metrics} (agrees : metrics.AgreesButCompiled other)
    (validator : Validator) (formats : Registries) (kind : SchemaKind) (check : Checker)
    (trial : Trial)
    : (validator.call metrics (trial.call formats (.node kind check))).metrics.AgreesButCompiled
        (validator.call other (trial.call formats (.node kind check))).metrics := by
  simp only [Trial.call, call, validate, checked]
  cases check trial.document with
  | error fault => exact agrees
  | ok violations => exact agrees_conclude agrees _ _ _ _ _

-----------------------------------------------------------------------------------------
-- Validations in a row
-----------------------------------------------------------------------------------------

section

variable {settings : Configuration.Settings} {formats : Registries} {definition : Value}

/-- Validations with a definition that cannot be compiled leave a validator as it is, by induction
on the validations. -/
theorem after_uncompiled {obstruction : Definition.Obstruction}
    (failed
      : (Definition.compile (settingOf settings formats) definition).outcome = .error obstruction)
    (metrics : Metrics) (trials : List Trial)
    : after { configuration := .ofSettings settings } metrics
        (trials.map (Trial.call formats (.definition definition)))
      = ({ configuration := .ofSettings settings }, metrics) := by
  induction trials using List.reverseRecOn with
  | nil => rfl
  | append_singleton trials trial ih =>
      have here
          : call { configuration := .ofSettings settings } metrics
              (trial.call formats (.definition definition)) = ⟨.error obstruction, _, _, metrics⟩ :=
        call_uncompiled rfl failed metrics
      rw [List.map_append, List.map_cons, List.map_nil, after_concat, ih, here]

/-- Validations of one subject enter the statistics with what its check finds, and they grow the
metrics by that and by what is compiled in each of them. -/
theorem after_trials {subject : Subject} {check : Checker} {compiled? : Option Schema}
    (finds
      : ∀ trial : Trial,
          (trial.call formats subject).found? (.ofSettings settings)
          = (check trial.document).toOption)
    (compiles
      : ∀ trial : Trial, (trial.call formats subject).compiled? (.ofSettings settings) = compiled?)
    (metrics : Metrics) (trials : List Trial)
    : let state :=
        after { configuration := .ofSettings settings } metrics
          (trials.map (Trial.call formats subject))
      state.1
        = { configuration := .ofSettings settings
            statistics := .total (Trial.findings check trials) }
      ∧ metrics.Grown settings.enableMetrics (Trial.findings check trials)
          (trials.filterMap fun _ => compiled?) state.2 := by
  have unreset
      : Call.sinceReset (trials.map (Trial.call formats subject))
        = trials.map (Trial.call formats subject) := by
    refine List.rtakeWhile_eq_self_iff.mpr fun call listed => ?_
    obtain ⟨trial, -, rfl⟩ := List.mem_map.mp listed
    rfl
  have found
      : (trials.map (Trial.call formats subject)).filterMap (·.found? (.ofSettings settings))
        = Trial.findings check trials := by
    simp only [List.filterMap_map, Function.comp_def, finds, Trial.findings]
  have compiled
      : (trials.map (Trial.call formats subject)).filterMap (·.compiled? (.ofSettings settings))
        = trials.filterMap fun _ => compiled? := by
    simp only [List.filterMap_map, Function.comp_def, compiles]
  have state := after_invariant settings metrics (trials.map (Trial.call formats subject))
  rwa [unreset, found, compiled] at state

/-- Validations of a node compile nothing. -/
theorem after_node (settings : Configuration.Settings) (formats : Registries) (kind : SchemaKind)
    (check : Checker) (metrics : Metrics) (trials : List Trial)
    : let state :=
        after { configuration := .ofSettings settings } metrics
          (trials.map (Trial.call formats (.node kind check)))
      state.1
        = { configuration := .ofSettings settings
            statistics := .total (Trial.findings check trials) }
      ∧ metrics.Grown settings.enableMetrics (Trial.findings check trials) [] state.2 := by
  have finds (trial : Trial)
      : (trial.call formats (.node kind check)).found? (.ofSettings settings)
        = (check trial.document).toOption := rfl
  have compiles (trial : Trial)
      : (trial.call formats (.node kind check)).compiled? (.ofSettings settings) = none := rfl
  have state := after_trials finds compiles metrics trials
  have nothing : trials.filterMap (fun _ => (none : Option Schema)) = [] := by simp
  rwa [nothing] at state

/-- Validations with a definition compile it each time, and find what the compiled tree finds. -/
theorem after_definition {schema : Schema}
    (compiled : (Definition.compile (settingOf settings formats) definition).outcome = .ok schema)
    (metrics : Metrics) (trials : List Trial)
    : let state :=
        after { configuration := .ofSettings settings } metrics
          (trials.map (Trial.call formats (.definition definition)))
      state.1
        = { configuration := .ofSettings settings
            statistics := .total (Trial.findings (schema.check formats) trials) }
      ∧ metrics.Grown settings.enableMetrics (Trial.findings (schema.check formats) trials)
          (List.replicate trials.length schema) state.2 := by
  have compiles (trial : Trial)
      : (trial.call formats (.definition definition)).compiled? (.ofSettings settings)
        = some schema :=
    congrArg Except.toOption compiled
  have finds (trial : Trial)
      : (trial.call formats (.definition definition)).found? (.ofSettings settings)
        = (schema.check formats trial.document).toOption := by
    have made := compiles trial
    simp only [Trial.call, Call.compiled?, Call.inquiry?, Option.bind_some] at made
    simp only [Trial.call, Call.found?, Call.inquiry?, Option.bind_some, Inquiry.found?,
      Inquiry.check?, made, Option.map_some]
    rfl
  have state := after_trials finds compiles metrics trials
  have each : trials.filterMap (fun _ => some schema) = List.replicate trials.length schema := by
    simp
  rwa [each] at state

/-- With the same clock, a validator that compiles a definition each time and one that has it
compiled count the same but for the compilations, by induction on the validations: each of them
leaves the same validator behind. -/
theorem agrees_after {schema : Schema}
    (compiled : (Definition.compile (settingOf settings formats) definition).outcome = .ok schema)
    {validator : Validator} (configured : validator.configuration = .ofSettings settings)
    {metrics other : Metrics} (agrees : metrics.AgreesButCompiled other) (trials : List Trial)
    : let first :=
        validator.after metrics (trials.map (Trial.call formats (.definition definition)))
      let second :=
        validator.after other
          (trials.map (Trial.call formats (.node schema.kind (schema.check formats))))
      first.2.AgreesButCompiled second.2 := by
  induction trials generalizing validator metrics other with
  | nil => exact agrees
  | cons trial rest ih =>
      let node : Subject := .node schema.kind (schema.check formats)
      have same
          : (validator.call metrics (trial.call formats (.definition definition))).validator
            = (validator.call other (trial.call formats node)).validator :=
        (call_definition_step configured compiled metrics other trial).2.2
      have counted
          : (validator.call metrics
              (trial.call formats (.definition definition))).metrics.AgreesButCompiled
            (validator.call other (trial.call formats node)).metrics := by
        rw [call_definition configured compiled]
        exact agrees_call_node (agrees_compiledOnce agrees settings schema) _ _ _ _ _
      have configured'
          : (validator.call other (trial.call formats node)).validator.configuration
            = .ofSettings settings := by
        rw [(call_spec other configured (trial.call formats node)).2.1]
        exact configured
      have rest := ih configured' counted
      simp only [List.map_cons, after, List.foldl_cons] at rest ⊢
      rwa [same]

end

-----------------------------------------------------------------------------------------
-- The two runs side by side
-----------------------------------------------------------------------------------------

/-- Validations with a definition fail as its compilation does, one by one, and nothing comes of
them. The compilation is refused, unless it stops at a text that cannot be read as a pattern. -/
structure FailsThroughout (settings : Configuration.Settings) (formats : Registries)
    (definition : Value) (validator : Validator) (obstruction : Definition.Obstruction)
    : Prop where
  reason
    : (∃ path refusal, obstruction = .refused path refusal)
      ∨ ∃ fault,
          obstruction = .stopped fault
          ∧ Definition.Stops (settingOf settings formats) definition fault
  still
    : ∀ (metrics : Metrics) (trials : List Trial),
        validator.after metrics (trials.map (Trial.call formats (.definition definition)))
        = (validator, metrics)
  fails
    : ∀ (metrics : Metrics) (trial : Trial),
        let run := validator.call metrics (trial.call formats (.definition definition))
        run.outcome = .error obstruction
        ∧ run.records = (Definition.compile (settingOf settings formats) definition).records

/-- A validator that gets a definition and one that gets the node compiled from it come to the same.
Their statistics are equal, and whatever document they get next, and whatever the clock shows, they
return the same, which tells what the compiled tree finds. All that the first one adds to its
records are those of the compilation. -/
structure ComeToTheSame (settings : Configuration.Settings) (formats : Registries)
    (definition : Value) (schema : Schema) (node : Subject) (first second : Validator × Metrics)
    : Prop where
  validators : first.1 = second.1
  returns
    : ∀ trial other : Trial,
        trial.document = other.document
        → let run := first.1.call first.2 (trial.call formats (.definition definition))
          let again := second.1.call second.2 (other.call formats node)
          run.outcome = again.outcome ∧ Tells (schema.check formats trial.document) run.outcome
  records
    : ∀ trial : Trial,
        let run := first.1.call first.2 (trial.call formats (.definition definition))
        let again := second.1.call second.2 (trial.call formats node)
        run.records
          = (Definition.compile (settingOf settings formats) definition).records ++ again.records

/-- Two runs over the same documents, one with a definition and one with the node compiled from it,
come to the same at each of them. The metrics grow by the same findings in both, and by a
compilation for each document in the first one; with the same clock, they differ in the compilations
alone. -/
structure RunsAlike (settings : Configuration.Settings) (formats : Registries) (definition : Value)
    (schema : Schema) (node : Subject) (validator : Validator) (metrics others : Metrics)
    (trials trials' : List Trial) : Prop where
  states
    : ComeToTheSame settings formats definition schema node
        (validator.after metrics (trials.map (Trial.call formats (.definition definition))))
        (validator.after others (trials'.map (Trial.call formats node)))
  first
    : metrics.Grown settings.enableMetrics (Trial.findings (schema.check formats) trials)
        (List.replicate trials.length schema)
        (validator.after metrics (trials.map (Trial.call formats (.definition definition)))).2
  second
    : others.Grown settings.enableMetrics (Trial.findings (schema.check formats) trials) []
        (validator.after others (trials'.map (Trial.call formats node))).2
  clocked
    : trials = trials'
      → metrics.AgreesButCompiled others
      → (validator.after metrics
          (trials.map (Trial.call formats (.definition definition)))).2.AgreesButCompiled
        (validator.after others (trials'.map (Trial.call formats node))).2

section

variable {settings : Configuration.Settings} {formats : Registries} {definition : Value}

theorem failsThroughout_of_uncompiled {obstruction : Definition.Obstruction}
    (failed
      : (Definition.compile (settingOf settings formats) definition).outcome = .error obstruction)
    : FailsThroughout settings formats definition { configuration := .ofSettings settings }
        obstruction where
  reason := by
    cases obstruction with
    | refused path refusal => exact Or.inl ⟨path, refusal, rfl⟩
    | stopped fault => exact Or.inr ⟨fault, rfl, Definition.compile_stops_iff.mp failed⟩
  still := after_uncompiled failed
  fails := by
    intro metrics trial
    have run
        : call { configuration := .ofSettings settings } metrics
            (trial.call formats (.definition definition)) = ⟨.error obstruction, _, _, metrics⟩ :=
      call_uncompiled rfl failed metrics
    simp only [run, and_self]

variable {schema : Schema}
  (compiled : (Definition.compile (settingOf settings formats) definition).outcome = .ok schema)

include compiled

/-- Two validators with the same statistics come to the same from then on. -/
theorem comeToTheSame_of_eq {first second : Validator × Metrics} (validators : first.1 = second.1)
    (configured : first.1.configuration = .ofSettings settings)
    : ComeToTheSame settings formats definition schema
        (.node schema.kind (schema.check formats)) first second := by
  have node (trial : Trial)
      : (second.1.call second.2
          (trial.call formats (.node schema.kind (schema.check formats)))).outcome
        = Answer.ofChecked (schema.check formats trial.document) :=
    call_node_outcome (validators ▸ configured) second.2
  refine ⟨validators, fun trial other document => ?_, fun trial => ?_⟩
  · obtain ⟨outcome, -, -⟩ := call_definition_step configured compiled first.2 second.2 trial
    rw [validators] at outcome ⊢
    have run := outcome.trans (node trial)
    simp only [run, node other, ← document, true_and]
    exact tells_ofChecked _
  · obtain ⟨-, records, -⟩ := call_definition_step configured compiled first.2 second.2 trial
    rw [validators] at records ⊢
    exact records

/-- The two runs of new validators are alike, since what is found in a document is all that a
validation of it leaves behind. -/
theorem runsAlike_of_compiled (metrics others : Metrics) {trials trials' : List Trial}
    (documents : trials.map (·.document) = trials'.map (·.document))
    : RunsAlike settings formats definition schema (.node schema.kind (schema.check formats))
        { configuration := .ofSettings settings } metrics others trials trials' := by
  obtain ⟨left, grown⟩ := after_definition compiled metrics trials
  obtain ⟨left', grown'⟩ :=
    after_node settings formats schema.kind (schema.check formats) others trials'
  rw [← Trial.findings_of_documents documents] at left' grown'
  refine ⟨comeToTheSame_of_eq compiled (left.trans left'.symm) ?_, grown, grown', ?_⟩
  · rw [left]
  · intro same agrees
    subst same
    exact agrees_after compiled rfl agrees trials

end

/-- Compiling a definition for every validation and compiling it once are the same to whoever asks
for the validations, under any settings. A definition that is not compiled fails in every validation
as it does in its compilation, and nothing comes of that. -/
theorem compiled_each_time_as_once (settings : Configuration.Settings) (workspace : Workspace)
    (name : String) (members : Definition.Members)
    : ∃ validator,
        (∀ logger,
          ∃ levelled records,
            start (.ofSettings settings) logger = .ok (validator, levelled, records))
        ∧ let formats := workspace.formats
          let definition := Value.object members
          let compiled := Definition.compile (settingOf settings formats) definition
          (∀ obstruction,
            compiled.outcome = .error obstruction
            → FailsThroughout settings formats definition validator obstruction)
          ∧ ∀ schema,
              compiled.outcome = .ok schema
              → let node :=
                  (workspace.bindTree name schema).subject (workspace.compiledNode name schema)
                ∀ (metrics others : Metrics) (trials trials' : List Trial),
                  trials.map (·.document) = trials'.map (·.document)
                  → RunsAlike settings formats definition schema node validator metrics others
                      trials trials' := by
  refine ⟨_, start_ofSettings settings, fun obstruction => failsThroughout_of_uncompiled, ?_⟩
  intro schema compiled node metrics others trials trials' documents
  have node_eq : node = .node schema.kind (schema.check workspace.formats) :=
    workspace.subject_compiledNode name schema
  rw [node_eq]
  exact runsAlike_of_compiled compiled metrics others documents

/-- A definition of texts that are to repeat something more often than patterns can count stops a
validation and is not refused. Two texts are validated alike against a definition of texts of two
letters and against what is compiled from it. -/
theorem repetition_too_large_stops_validation
    : (∃ validator levelled records,
        start (.ofSettings {}) {} = .ok (validator, levelled, records)
        ∧ (validator.call {}
            (Trial.call ({} : Workspace).formats
              (.definition (.object
                [("type", .string "string"),
                  ("pattern", .string "a\x7b99999999999999999999\x7d")]))
              (.instant (.string "a")))).outcome
          = .error (.stopped .repetitionTooLarge))
      ∧ ∃ validator levelled records schema,
          start (.ofSettings {}) {} = .ok (validator, levelled, records)
          ∧ (validator.after {}
              ([Trial.instant (.string "a"), .instant (.string "ab")].map
                (Trial.call ({} : Workspace).formats
                  (.definition (.object [("type", .string "string"), ("minLength", .int 2)]))))).1
            = (validator.after {}
                ([Trial.instant (.string "a"), .instant (.string "ab")].map
                  (Trial.call ({} : Workspace).formats
                    ((({} : Workspace).bindTree "node" schema).subject
                      (({} : Workspace).compiledNode "node" schema))))).1 := by
  have unread : Pattern.compile "a\x7b99999999999999999999\x7d"
      = .error (.fault .repetitionTooLarge) :=
    Format.isPattern_eq_error_iff.mp (by decide +kernel)
  constructor
  · obtain ⟨validator, started, fails, -⟩ :=
      compiled_each_time_as_once {} {} "node"
        [("type", .string "string"), ("pattern", .string "a\x7b99999999999999999999\x7d")]
    obtain ⟨levelled, records, started⟩ := started {}
    refine ⟨validator, levelled, records, started, ?_⟩
    refine ((fails (.stopped .repetitionTooLarge) (Definition.compile_stops_iff.mpr ?_)).fails {}
      (.instant (.string "a"))).1
    refine .leaf ⟨rfl, rfl, ?_⟩ nofun ⟨_, _, rfl, rfl, unread⟩
    unfold Definition.Lacks
    decide
  · obtain ⟨validator, started, -, alike⟩ :=
      compiled_each_time_as_once {} {} "node" [("type", .string "string"), ("minLength", .int 2)]
    obtain ⟨levelled, records, started⟩ := started {}
    have built
        : ∃ schema,
            (Definition.compile (settingOf {} ({} : Workspace).formats)
              (.object [("type", .string "string"), ("minLength", .int 2)])).outcome = .ok schema :=
      ⟨_, rfl⟩
    obtain ⟨schema, compiled⟩ := built
    refine ⟨validator, levelled, records, schema, started, ?_⟩
    exact (alike schema compiled {} {} _ _ rfl).states.validators

end Validator

end Assay
