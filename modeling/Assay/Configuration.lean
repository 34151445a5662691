import Assay.Log
import Assay.Value.Written

/-!
Configurations: their fields, how they are read from an environment, and the current one, which is
loaded when it is first asked for.
-/

namespace Assay
open Text

/-- The settings of the library. Code may give them any values, so what a value means is asked
where it is used. -/
structure Configuration where
  /-- Validations are counted if this counts as true. -/
  enableMetrics : Value
  /-- Validations that take more milliseconds are reported as slow. -/
  slowValidation : Value
  /-- Definitions may only name registered formats if this counts as true. -/
  strictFormats : Value
  /-- The name of the level of the log. -/
  logLevel : Value

/-- The variables that settings are read from, by their names without the common beginning. -/
abbrev Environment : Type := List (String × String)

namespace Environment

/-- The beginning that the names of all variables share. -/
def namePrefix : String := "JSONCONFORM_"

/-- The environment with a variable set, or without it. -/
def set (environment : Environment) (name : String) (value : Option String)
    : Environment :=
  let others := environment.filter (·.1 != name)
  match value with
  | some value => (name, value) :: others
  | none => others

/-- The words that turn a setting on, in whatever case they are written. -/
def trueWords : List String := ["true", "1", "yes"]

/-- A truth value of a variable, `otherwise` if it is not set. -/
def flag (environment : Environment) (name : String) (otherwise : Bool)
    : Bool :=
  match environment.lookup name with
  | some text => trueWords.contains (String.ofList (text.toList.map Char.toLower))
  | none => otherwise

end Environment

namespace Configuration

/-- The settings of variables: what can be read from texts. -/
structure Settings where
  enableMetrics : Bool := true
  slowValidation : Binary64 := .ofRatio false 250 1
  strictFormats : Bool := false
  logLevel : String := "INFO"

/-- The configuration of settings. -/
def ofSettings (settings : Settings)
    : Configuration where
  enableMetrics := .bool settings.enableMetrics
  slowValidation := .number (.float settings.slowValidation)
  strictFormats := .bool settings.strictFormats
  logLevel := .string settings.logLevel

/-- The configuration without any choice. -/
def initial : Configuration :=
  ofSettings {}

/-- The record of settings that have been loaded. -/
def loadedRecord (settings : Settings)
    : LogRecord :=
  ⟨.config, .info, "JsonConformConfig loaded: enable_metrics="
    ++ (Value.bool settings.enableMetrics).display
    ++ ", strict_formats=" ++ (Value.bool settings.strictFormats).display
    ++ ", slow_validation_ms=" ++ settings.slowValidation.fixed 1
    ++ ", log_level=" ++ settings.logLevel⟩

/-- The record of a variable whose text is no number. -/
def badNumberRecord (name text : String) (otherwise : Binary64)
    : LogRecord :=
  ⟨.config, .warning, "Invalid float for " ++ Environment.namePrefix ++ name ++ "=" ++ text
    ++ ", using default " ++ otherwise.fixed 6⟩

/-- The number of a variable, `otherwise` if it is not set or no number, which is recorded. -/
def numberFrom (environment : Environment) (name : String) (otherwise : Binary64)
    : Binary64 × List LogRecord :=
  match environment.lookup name with
  | none => (otherwise, [])
  | some text =>
      match Binary64.ofText? text.toList with
      | some value => (value, [])
      | none => (otherwise, [badNumberRecord name text otherwise])

/-- The configuration that an environment gives, each field from a variable of its own. -/
def fromEnvironment (environment : Environment)
    : Configuration × List LogRecord :=
  let usual : Settings := {}
  let (slowValidation, records) :=
    numberFrom environment "SLOW_VALIDATION_MS" usual.slowValidation
  let settings : Settings :=
    { enableMetrics := environment.flag "ENABLE_METRICS" usual.enableMetrics
      slowValidation
      strictFormats := environment.flag "STRICT_FORMATS" usual.strictFormats
      logLevel := (environment.lookup "LOG_LEVEL").getD usual.logLevel }
  (ofSettings settings, records ++ [loadedRecord settings])

/-- The level that a value names, if it names one. Only what can be put in upper case can: texts,
and bytes, which name no level. -/
def levelOf?
    : Value → Except Fault (Option Nat)
  | .foreign .bytes => .ok none
  | value =>
      match value.text? with
      | some name => .ok (Logger.levelOf? name)
      | none => .error (.noMember value.qualifiedTypeName "upper")

/-- Gives a logger the level of a configuration; a name that no level has is recorded and changes
nothing. -/
def applyLevel (configuration : Configuration) (logger : Logger)
    : Except Fault (Logger × List LogRecord) := do
  match ← levelOf? configuration.logLevel with
  | some level => return ({ level }, [])
  | none =>
      return (logger, [⟨.config, .warning, "Unknown log level "
        ++ configuration.logLevel.literal ++ ", leaving logger unchanged"⟩])

end Configuration

/-- The configuration in force. Every one that is loaded or put in force has a number of its own,
by which it is known again. -/
structure CurrentConfiguration where
  environment : Environment := []
  inForce : Option (Nat × Configuration) := none
  nextNumber : Nat := 0

namespace CurrentConfiguration

/-- The configuration in force, which is loaded from the environment if there is none. -/
def get (current : CurrentConfiguration)
    : (Nat × Configuration) × List LogRecord × CurrentConfiguration :=
  match current.inForce with
  | some numbered => (numbered, [], current)
  | none =>
      let (configuration, records) := Configuration.fromEnvironment current.environment
      let numbered := (current.nextNumber, configuration)
      (numbered, records,
        { current with inForce := some numbered, nextNumber := current.nextNumber + 1 })

/-- Puts a configuration in force. -/
def set (current : CurrentConfiguration) (configuration : Configuration)
    : List LogRecord × CurrentConfiguration :=
  ([⟨.config, .info, "JsonConformConfig replaced programmatically"⟩],
    { current with
      inForce := some (current.nextNumber, configuration)
      nextNumber := current.nextNumber + 1 })

/-- Takes the configuration out of force. -/
def reset (current : CurrentConfiguration)
    : CurrentConfiguration :=
  { current with inForce := none }

/-- Sets or removes a variable, which the configuration in force does not notice. -/
def setVariable (current : CurrentConfiguration) (name : String) (value : Option String)
    : CurrentConfiguration :=
  { current with environment := current.environment.set name value }

end CurrentConfiguration

end Assay
