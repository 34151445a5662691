import Assay.Configuration
import Assay.Proofs.Outcome

/-! The configuration in force over any history of the environment, of choices made in code and of
those who ask. It is the one that has been set last, or else it is loaded when it is first asked for
after the last reset, and stays the one that has been loaded.
-/

namespace Assay

/-- The variables that a configuration is read from. -/
inductive Variable where
  | enableMetrics
  | slowValidation
  | strictFormats
  | logLevel
deriving DecidableEq, Repr

namespace Variable

/-- The name of a variable behind the common beginning. -/
def name
    : Variable → String
  | .enableMetrics => "ENABLE_METRICS"
  | .slowValidation => "SLOW_VALIDATION_MS"
  | .strictFormats => "STRICT_FORMATS"
  | .logLevel => "LOG_LEVEL"

/-- The field that a variable is read for. -/
def field
    : Variable → Configuration → Value
  | .enableMetrics => Configuration.enableMetrics
  | .slowValidation => Configuration.slowValidation
  | .strictFormats => Configuration.strictFormats
  | .logLevel => Configuration.logLevel

/-- What the text of a variable is read as, if it can be read: a word for a truth value in any case,
a number, or the text itself. -/
def readsAs?
    : Variable → String → Option Value
  | .enableMetrics, text | .strictFormats, text =>
      some (.bool (decide
        (String.ofList (text.toList.map Char.toLower) ∈ Environment.trueWords)))
  | .slowValidation, text => (Binary64.ofText? text.toList).map fun value => .number (.float value)
  | .logLevel, text => some (.string text)

end Variable

theorem Environment.flag_eq (environment : Environment) (name : String) (otherwise : Bool)
    : environment.flag name otherwise
      = ((environment.lookup name).map fun text =>
          decide (String.ofList (text.toList.map Char.toLower) ∈ trueWords)).getD otherwise := by
  unfold flag
  cases environment.lookup name with
  | none => rfl
  | some text => exact List.contains_eq_mem _ _

theorem Configuration.numberFrom_eq (environment : Environment) (name : String)
    (otherwise : Binary64)
    : (numberFrom environment name otherwise).1
      = ((environment.lookup name).bind fun text => Binary64.ofText? text.toList).getD
          otherwise := by
  unfold numberFrom
  cases environment.lookup name with
  | none => rfl
  | some text => cases read : Binary64.ofText? text.toList <;> simp [read]

/-- Each field of the configuration of an environment is read from a variable of its own, and is the
usual one if the variable is not set or cannot be read. -/
theorem Configuration.field_fromEnvironment (environment : Environment) (source : Variable)
    : source.field (fromEnvironment environment).1
      = ((environment.lookup source.name).bind source.readsAs?).getD
          (source.field Configuration.initial) := by
  cases source with
  | enableMetrics =>
      have read : (fromEnvironment environment).1.enableMetrics
          = .bool (environment.flag "ENABLE_METRICS" true) := rfl
      simp only [Variable.field, Variable.name, read, Environment.flag_eq]
      cases environment.lookup "ENABLE_METRICS" <;> rfl
  | strictFormats =>
      have read : (fromEnvironment environment).1.strictFormats
          = .bool (environment.flag "STRICT_FORMATS" false) := rfl
      simp only [Variable.field, Variable.name, read, Environment.flag_eq]
      cases environment.lookup "STRICT_FORMATS" <;> rfl
  | logLevel =>
      have read : (fromEnvironment environment).1.logLevel
          = .string ((environment.lookup "LOG_LEVEL").getD "INFO") := rfl
      simp only [Variable.field, Variable.name, read]
      cases environment.lookup "LOG_LEVEL" <;> rfl
  | slowValidation =>
      have read : (fromEnvironment environment).1.slowValidation
          = .number (.float
              (numberFrom environment "SLOW_VALIDATION_MS" (.ofRatio false 250 1)).1) := rfl
      simp only [Variable.field, Variable.name, read, numberFrom_eq]
      cases environment.lookup "SLOW_VALIDATION_MS" with
      | none => rfl
      | some text =>
          simp only [Option.bind_some, Variable.readsAs?]
          cases Binary64.ofText? text.toList <;> rfl

/-- A variable that is set or removed is the only one that changes. -/
theorem Environment.lookup_set (environment : Environment) (name other : String)
    (value : Option String)
    : (environment.set name value).lookup other
      = if other = name then value else environment.lookup other := by
  have others : (environment.filter (·.1 != name)).lookup other
      = if other = name then none else environment.lookup other := by
    induction environment with
    | nil => simp
    | cons entry rest ih =>
        by_cases removed : entry.1 = name
        · rw [List.filter_cons_of_neg (by simp [removed]), ih]
          by_cases same : other = name
          · rw [if_pos same, if_pos same]
          · have apart : (other == entry.1) = false := by simp [removed, same]
            rw [if_neg same, if_neg same, List.lookup_cons, apart]
        · rw [List.filter_cons_of_pos (by simp [removed]), List.lookup_cons, List.lookup_cons, ih]
          by_cases same : other = name
          · have apart : (other == entry.1) = false := by simp [same, Ne.symm removed]
            rw [apart, if_pos same]
          · rw [if_neg same, if_neg same]
  unfold set
  cases value with
  | none => exact others
  | some value =>
      by_cases same : other = name
      · simp [same]
      · have apart : (other == name) = false := by simp [same]
        simp only [List.lookup_cons, apart, others, if_neg same]

-----------------------------------------------------------------------------------------
-- Histories
-----------------------------------------------------------------------------------------

namespace CurrentConfiguration

/-- What can happen to the configuration in force. -/
inductive Event where
  /-- A variable is set or removed. -/
  | change (name : String) (value : Option String)
  | set (configuration : Configuration)
  | reset
  /-- A configuration is read from the environment, and is not put in force. -/
  | read
  | get
  /-- A compiler is made without a configuration of its own. -/
  | compiler

namespace Event

/-- An event decides what is in force, whatever has happened before. -/
def decides
    : Event → Bool
  | .set _ | .reset => true
  | _ => false

/-- An event asks for the configuration in force. -/
def asks
    : Event → Bool
  | .get | .compiler => true
  | _ => false

end Event

/-- The state after an event. -/
def after (current : CurrentConfiguration)
    : Event → CurrentConfiguration
  | .change name value => current.setVariable name value
  | .set configuration => (current.set configuration).2
  | .reset => current.reset
  | .read => current
  | .get | .compiler => current.get.2.2

/-- The state after several events, one after the other. -/
def afterAll (current : CurrentConfiguration) (events : List Event)
    : CurrentConfiguration :=
  events.foldl after current

/-- The configuration that an event is given, with its number, if it asks for one. -/
def given? (current : CurrentConfiguration) (event : Event)
    : Option (Nat × Configuration) :=
  if event.asks then some current.get.1 else none

/-- The environment after several events. -/
def environmentAfter (start : Environment) (events : List Event)
    : Environment :=
  events.foldl
    (fun environment event =>
      match event with
      | .change name value => environment.set name value
      | _ => environment)
    start

/-- The events up to the last one that decides. -/
def settled (events : List Event)
    : List Event :=
  events.rdropWhile (!·.decides)

/-- The events after the last one that decides. -/
def since (events : List Event)
    : List Event :=
  events.rtakeWhile (!·.decides)

/-- The configuration that has to be given after some events: the one that has been set, if the last
event that decides has set one, and otherwise the one of the environment as it was when one was
first asked for since then, or as it is if none was. -/
def expected (start : Environment) (events : List Event)
    : Configuration :=
  match (settled events).getLast? with
  | some (.set configuration) => configuration
  | _ =>
      (Configuration.fromEnvironment
        (environmentAfter start (settled events ++ (since events).takeWhile (!·.asks)))).1

section Snoc

variable {start : Environment} {events : List Event} {event : Event}

theorem afterAll_snoc (current : CurrentConfiguration)
    : current.afterAll (events ++ [event]) = (current.afterAll events).after event := by
  rw [afterAll, List.foldl_append]
  rfl

theorem environmentAfter_snoc_of_change {name : String} {value : Option String}
    : environmentAfter start (events ++ [.change name value])
      = (environmentAfter start events).set name value := by
  rw [environmentAfter, List.foldl_append]
  rfl

theorem environmentAfter_snoc_of_other (other : ∀ name value, event ≠ .change name value)
    : environmentAfter start (events ++ [event]) = environmentAfter start events := by
  rw [environmentAfter, List.foldl_append]
  cases event with
  | change name value => exact absurd rfl (other name value)
  | _ => rfl

/-- What decides settles everything. -/
theorem settled_snoc_of_decides (decides : event.decides)
    : settled (events ++ [event]) = events ++ [event] ∧ since (events ++ [event]) = [] := by
  have stops : ¬(!event.decides) = true := by simp [decides]
  exact ⟨List.rdropWhile_concat_neg _ _ _ stops, List.rtakeWhile_concat_neg _ _ _ stops⟩

/-- What does not decide comes after what is settled. -/
theorem settled_snoc_of_not_decides (undecided : event.decides = false)
    : settled (events ++ [event]) = settled events
      ∧ since (events ++ [event]) = since events ++ [event] := by
  have goes : (!event.decides) = true := by simp [undecided]
  exact ⟨List.rdropWhile_concat_pos _ _ _ goes, List.rtakeWhile_concat_pos _ _ _ goes⟩

theorem settled_append_since (events : List Event)
    : settled events ++ since events = events :=
  List.rdropWhile_append_rtakeWhile

end Snoc

-----------------------------------------------------------------------------------------
-- What has to be given
-----------------------------------------------------------------------------------------

/-- A configuration has still to be loaded: none has been set after the last reset, and none has
been asked for. -/
structure Pending (events : List Event) : Prop where
  unset : ∀ configuration, (settled events).getLast? ≠ some (.set configuration)
  unasked : ∀ event ∈ since events, event.asks = false

variable {start : Environment} {events : List Event} {event : Event}

theorem quiet_since_iff
    : (since events).takeWhile (!·.asks) = since events
      ↔ ∀ event ∈ since events, event.asks = false := by
  simp only [List.takeWhile_eq_self_iff, Bool.not_eq_true']

/-- Where no configuration has been set, that of the environment has to be given. -/
theorem expected_of_unset
    (unset : ∀ configuration, (settled events).getLast? ≠ some (.set configuration))
    : expected start events
      = (Configuration.fromEnvironment
          (environmentAfter start (settled events ++ (since events).takeWhile (!·.asks)))).1 := by
  rw [expected]
  split
  · rename_i configuration last
    exact absurd last (unset configuration)
  · rfl

/-- While a configuration has still to be loaded, that of the present environment has to be
given. -/
theorem expected_of_pending (pending : Pending events)
    : expected start events
      = (Configuration.fromEnvironment (environmentAfter start events)).1 := by
  rw [expected_of_unset pending.unset, quiet_since_iff.mpr pending.unasked, settled_append_since]

section Undecided

variable (undecided : event.decides = false)
include undecided

theorem pending_snoc_iff
    : Pending (events ++ [event]) ↔ Pending events ∧ event.asks = false := by
  obtain ⟨same, longer⟩ := @settled_snoc_of_not_decides events event undecided
  constructor
  · intro pending
    have unasked := pending.unasked
    rw [longer, List.forall_mem_append] at unasked
    exact ⟨⟨same ▸ pending.unset, unasked.1⟩, unasked.2 event List.mem_cons_self⟩
  · intro ⟨pending, quiet⟩
    refine ⟨same.symm ▸ pending.unset, ?_⟩
    rw [longer, List.forall_mem_append]
    exact ⟨pending.unasked, by simpa using quiet⟩

/-- What has been set or loaded has to be given again. -/
theorem expected_snoc_of_present (present : ¬Pending events)
    : expected start (events ++ [event]) = expected start events := by
  obtain ⟨same, longer⟩ := @settled_snoc_of_not_decides events event undecided
  by_cases unset : ∀ configuration, (settled events).getLast? ≠ some (.set configuration)
  · have asked : ((since events).takeWhile (!·.asks)).length ≠ (since events).length := by
      intro whole
      have quiet : (since events).takeWhile (!·.asks) = since events :=
        (List.takeWhile_prefix _).eq_of_length whole
      exact present ⟨unset, quiet_since_iff.mp quiet⟩
    rw [expected_of_unset unset, expected_of_unset (same ▸ unset), same, longer,
      List.takeWhile_append, if_neg asked]
  · simp only [not_forall, not_not] at unset
    obtain ⟨configuration, last⟩ := unset
    simp only [expected, same, last]

/-- Who first asks for a configuration has to be given that of the present environment. -/
theorem expected_snoc_of_asks (pending : Pending events) (asks : event.asks)
    : expected start (events ++ [event])
      = (Configuration.fromEnvironment (environmentAfter start events)).1 := by
  obtain ⟨same, longer⟩ := @settled_snoc_of_not_decides events event undecided
  have quiet := quiet_since_iff.mpr pending.unasked
  rw [expected_of_unset (same.symm ▸ pending.unset), same, longer, List.takeWhile_append,
    if_pos (by rw [quiet]), List.takeWhile_cons_of_neg (by simp [asks]), List.append_nil,
    settled_append_since]

end Undecided

/-- What has been set has to be given. -/
theorem expected_snoc_set (configuration : Configuration)
    : expected start (events ++ [.set configuration]) = configuration := by
  have settles := (@settled_snoc_of_decides events (.set configuration) rfl).1
  simp only [expected, settles, List.getLast?_concat]

theorem not_pending_snoc_set (configuration : Configuration)
    : ¬Pending (events ++ [.set configuration]) := by
  intro pending
  have settles := (@settled_snoc_of_decides events (.set configuration) rfl).1
  exact pending.unset configuration (by rw [settles, List.getLast?_concat])

/-- After a reset a configuration has to be loaded again. -/
theorem pending_snoc_reset
    : Pending (events ++ [.reset]) := by
  obtain ⟨settles, nothing⟩ := @settled_snoc_of_decides events .reset rfl
  refine ⟨fun configuration => ?_, ?_⟩
  · rw [settles, List.getLast?_concat]
    simp
  · rw [nothing]
    simp

-----------------------------------------------------------------------------------------
-- What is given
-----------------------------------------------------------------------------------------

/-- A state is as it has to be after some events: the environment is theirs, and there is a
configuration in force, the one that has to be given, unless one has still to be loaded. -/
structure Follows (current : CurrentConfiguration) (start : Environment) (events : List Event)
    : Prop where
  environment : current.environment = environmentAfter start events
  unloaded : current.inForce = none ↔ Pending events
  inForce : ∀ numbered, current.inForce = some numbered → numbered.2 = expected start events

variable {current : CurrentConfiguration}

/-- Who asks is given the configuration that has to be given. -/
theorem Follows.get (follows : current.Follows start events)
    : current.get.1.2 = expected start events := by
  unfold CurrentConfiguration.get
  cases present : current.inForce with
  | some numbered => exact follows.inForce numbered present
  | none =>
      have pending := follows.unloaded.mp present
      exact ((expected_of_pending pending).trans (by rw [follows.environment])).symm

/-- An event that changes nothing but the environment leaves the state as it has to be, if it does
not ask for what is missing. -/
theorem Follows.of_same {next : CurrentConfiguration} (follows : current.Follows start events)
    (undecided : event.decides = false) (quiet : event.asks = false ∨ current.inForce ≠ none)
    (environment : next.environment = environmentAfter start (events ++ [event]))
    (same : next.inForce = current.inForce)
    : next.Follows start (events ++ [event]) := by
  refine ⟨environment, ?_, ?_⟩
  · rw [same, follows.unloaded, pending_snoc_iff undecided]
    rcases quiet with quiet | present
    · simp [quiet]
    · simp [mt follows.unloaded.mpr present]
  · intro numbered held
    rw [same] at held
    have present : ¬Pending events := by
      rw [← follows.unloaded, held]
      exact Option.some_ne_none numbered
    rw [expected_snoc_of_present undecided present]
    exact follows.inForce numbered held

/-- Who asks leaves what is in force as it is, or has it loaded. -/
theorem Follows.asked (follows : current.Follows start events) (asks : event.asks)
    (undecided : event.decides = false) (other : ∀ name value, event ≠ .change name value)
    : current.get.2.2.Follows start (events ++ [event]) := by
  have unchanged := @environmentAfter_snoc_of_other start events event other
  cases present : current.inForce with
  | some numbered =>
      have same : current.get.2.2 = current := by
        unfold CurrentConfiguration.get
        rw [present]
      rw [same]
      refine follows.of_same undecided (Or.inr ?_) ?_ rfl
      · rw [present]
        exact Option.some_ne_none numbered
      · rw [unchanged, follows.environment]
  | none =>
      -- the environment of now is the one that the first to ask is given
      have pending := follows.unloaded.mp present
      have loaded : current.get.2.2.inForce = some current.get.1
          ∧ current.get.2.2.environment = current.environment := by
        unfold CurrentConfiguration.get
        rw [present]
        exact ⟨rfl, rfl⟩
      refine ⟨?_, ?_, ?_⟩
      · rw [loaded.2, unchanged, follows.environment]
      · rw [loaded.1, pending_snoc_iff undecided]
        simp [asks]
      · intro numbered held
        obtain rfl := Option.some.inj (loaded.1.symm.trans held)
        rw [follows.get, expected_of_pending pending, expected_snoc_of_asks undecided pending asks]

/-- Each event leaves the state as it has to be. -/
theorem Follows.after (follows : current.Follows start events) (event : Event)
    : (current.after event).Follows start (events ++ [event]) := by
  cases event with
  | set configuration =>
      refine ⟨?_, iff_of_false ?_ (not_pending_snoc_set configuration), ?_⟩
      · exact follows.environment.trans (environmentAfter_snoc_of_other (by simp)).symm
      · exact Option.some_ne_none _
      · intro numbered held
        obtain rfl := Option.some.inj held
        exact (expected_snoc_set configuration).symm
  | reset =>
      refine ⟨?_, iff_of_true rfl pending_snoc_reset, ?_⟩
      · exact follows.environment.trans (environmentAfter_snoc_of_other (by simp)).symm
      · intro numbered held
        cases held
  | read =>
      refine follows.of_same rfl (Or.inl rfl) ?_ rfl
      exact follows.environment.trans (environmentAfter_snoc_of_other (by simp)).symm
  | change name value =>
      refine follows.of_same rfl (Or.inl rfl) ?_ rfl
      rw [environmentAfter_snoc_of_change, ← follows.environment]
      rfl
  | get | compiler => exact follows.asked rfl rfl (by simp)

/-- The state is as it has to be after any events, by induction on them from the last one back. -/
theorem follows_afterAll (start : Environment) (events : List Event)
    : (afterAll { environment := start } events).Follows start events := by
  induction events using List.reverseRecOn with
  | nil =>
      refine ⟨rfl, iff_of_true rfl ⟨?_, ?_⟩, ?_⟩
      · intro configuration last
        cases last
      · intro event listed
        cases listed
      · intro numbered held
        cases held
  | append_singleton events event ih =>
      rw [afterAll_snoc]
      exact ih.after event

/-- What is in force stays so until the next event that decides. -/
theorem inForce_afterAll {numbered : Nat × Configuration}
    (present : current.inForce = some numbered)
    (undecided : ∀ event ∈ events, event.decides = false)
    : (current.afterAll events).inForce = some numbered := by
  induction events generalizing current with
  | nil => exact present
  | cons event events ih =>
      rw [List.forall_mem_cons] at undecided
      refine ih ?_ undecided.2
      cases event with
      | set | reset => cases undecided.1
      | change | read => exact present
      | get | compiler =>
          rw [after, CurrentConfiguration.get, present]
          exact present

/-- Who asks while a configuration is in force is given that one. -/
theorem given_of_inForce {numbered : Nat × Configuration}
    (present : current.inForce = some numbered) (asks : event.asks)
    : given? current event = some numbered := by
  rw [given?, if_pos asks, CurrentConfiguration.get, present]

/-- What somebody has been given is in force afterwards. -/
theorem inForce_of_asks (asks : event.asks)
    : (current.after event).inForce = some current.get.1 := by
  have loaded : current.get.2.2.inForce = some current.get.1 := by
    unfold CurrentConfiguration.get
    cases present : current.inForce with
    | some numbered => exact present
    | none => rfl
  cases event with
  | get | compiler => exact loaded
  | _ => cases asks

/-- After any changes of the environment, choices and accesses, whoever asks for the configuration
in force is given the one that has to be given, and everybody who asks before the next event that
decides is given the very same one. A configuration that is set is the one given until then. Reading
a configuration from the environment changes nothing; each of its fields comes from a variable of
its own, and is the usual one if that is not set or cannot be read. -/
theorem configuration_follows_reference (start : Environment)
    : (∀ (before : List Event) (event : Event),
        event.asks
        → ∃ number,
            given? (afterAll { environment := start } before) event
              = some (number, expected start before)
            ∧ ∀ (between : List Event) (later : Event),
                (∀ other ∈ between, other.decides = false)
                → later.asks
                → given? (afterAll { environment := start } (before ++ event :: between)) later
                  = some (number, expected start before))
      ∧ (∀ (before : List Event) (configuration : Configuration),
          ∃ number,
            (afterAll { environment := start } (before ++ [.set configuration])).inForce
              = some (number, configuration)
            ∧ ∀ (between : List Event) (later : Event),
                (∀ other ∈ between, other.decides = false)
                → later.asks
                → given?
                    (afterAll { environment := start } (before ++ .set configuration :: between))
                    later
                  = some (number, configuration))
      ∧ (∀ before : List Event,
          afterAll { environment := start } (before ++ [.read])
            = afterAll { environment := start } before)
      ∧ ∀ (environment : Environment) (source : Variable),
          source.field (Configuration.fromEnvironment environment).1
          = ((environment.lookup source.name).bind source.readsAs?).getD
              (source.field Configuration.initial) := by
  have stays {before between : List Event} {event later : Event} {numbered : Nat × Configuration}
      (present : (afterAll { environment := start } (before ++ [event])).inForce = some numbered)
      (undecided : ∀ other ∈ between, other.decides = false) (asks : later.asks)
      : given? (afterAll { environment := start } (before ++ event :: between)) later
        = some numbered := by
    have history : before ++ event :: between = (before ++ [event]) ++ between := by simp
    rw [history, afterAll, List.foldl_append]
    exact given_of_inForce (inForce_afterAll present undecided) asks
  refine ⟨?_, ?_, ?_, Configuration.field_fromEnvironment⟩
  · intro before event asks
    obtain ⟨number, answer⟩
        : ∃ number,
            (afterAll { environment := start } before).get.1 = (number, expected start before) :=
      ⟨_, Prod.ext rfl (follows_afterAll start before).get⟩
    refine ⟨number, ?_, fun between later undecided asks' => ?_⟩
    · rw [given?, if_pos asks, answer]
    · refine stays ?_ undecided asks'
      rw [afterAll_snoc, inForce_of_asks asks, answer]
  · intro before configuration
    have present : (afterAll { environment := start } (before ++ [.set configuration])).inForce
        = some ((afterAll { environment := start } before).nextNumber, configuration) := by
      rw [afterAll_snoc]
      rfl
    exact ⟨_, present, fun between later => stays present⟩
  · intro before
    rw [afterAll_snoc]
    rfl

/-- A configuration that a compiler has loaded is given again, though the environment has changed
since. -/
theorem loaded_by_compiler_given_again
    : ∃ number,
        given? (afterAll { environment := [("LOG_LEVEL", "DEBUG")] } [.reset]) .compiler
          = some (number, expected [("LOG_LEVEL", "DEBUG")] [.reset])
        ∧ given?
            (afterAll { environment := [("LOG_LEVEL", "DEBUG")] }
              ([.reset] ++ .compiler :: [.change "LOG_LEVEL" none, .read])) .get
          = some (number, expected [("LOG_LEVEL", "DEBUG")] [.reset]) := by
  obtain ⟨number, given, again⟩ :=
    (configuration_follows_reference [("LOG_LEVEL", "DEBUG")]).1 [.reset] .compiler rfl
  exact ⟨number, given, again [.change "LOG_LEVEL" none, .read] .get (by simp [Event.decides]) rfl⟩

end CurrentConfiguration

end Assay
