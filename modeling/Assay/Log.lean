import Assay.Fault

/-!
Log records, and the logger that keeps those of its level and above.
-/

namespace Assay

/-- The parts of the library that write log records. -/
inductive LogSource where
  | config
  | compiler
  | validator
deriving DecidableEq, Repr

/-- The name of a source. -/
def LogSource.name
    : LogSource → String
  | .config => "jsonconform.config"
  | .compiler => "jsonconform.compiler"
  | .validator => "jsonconform.validator"

/-- How much a record matters. -/
inductive Severity where
  | debug
  | info
  | warning
deriving DecidableEq, Repr

/-- A severity on the scale of levels. -/
def Severity.level
    : Severity → Nat
  | .debug => 10
  | .info => 20
  | .warning => 30

/-- The word for a severity. -/
def Severity.word
    : Severity → String
  | .debug => "DEBUG"
  | .info => "INFO"
  | .warning => "WARNING"

/-- A line of the log. -/
structure LogRecord where
  source : LogSource
  severity : Severity
  text : String
deriving DecidableEq, Repr

/-- A logger with its level, where zero stands for no level of its own. -/
structure Logger where
  level : Nat := 0
deriving DecidableEq, Repr

namespace Logger

/-- The level of loggers without one of their own. -/
def inheritedLevel : Nat := 30

/-- The least level of records that are kept. -/
def threshold (logger : Logger)
    : Nat :=
  if logger.level = 0 then inheritedLevel else logger.level

/-- The records that are kept. -/
def keep (logger : Logger) (records : List LogRecord)
    : List LogRecord :=
  records.filter fun record => logger.threshold ≤ record.severity.level

/-- Writes a record. The words of one that is not kept are never asked for, so a fault in them
stops only a logger that keeps it. -/
def write (logger : Logger) (source : LogSource) (severity : Severity)
    (text : Except Fault String)
    : Except Fault (List LogRecord) :=
  if logger.threshold ≤ severity.level then text.map fun text => [⟨source, severity, text⟩]
  else .ok []

/-- The names of levels. -/
def levelNames : List (String × Nat) :=
  [("CRITICAL", 50), ("FATAL", 50), ("ERROR", 40), ("WARN", 30), ("WARNING", 30),
    ("INFO", 20), ("DEBUG", 10), ("NOTSET", 0)]

/-- The upper-case form of a character as far as level names ask for it: two letters outside
ASCII have ASCII letters as theirs. -/
def upperLetter (c : Char)
    : Char :=
  if c = 'ı' then 'I' else if c = 'ſ' then 'S' else c.toUpper

/-- The level of a name, in whatever case it is written. -/
def levelOf? (name : String)
    : Option Nat :=
  levelNames.lookup (String.ofList (name.toList.map upperLetter))

end Logger

end Assay
