import Assay.Definition.Assembly
import Assay.Log

/-!
The log records of a compilation: one for every completed schema, and one for the whole.
-/

namespace Assay.Definition

/-- The record of a completed schema. -/
def Completed.record (part : Completed)
    : LogRecord :=
  ⟨.compiler, .debug, "Compiled " ++ part.kind.word ++ " node at " ++ part.path.text⟩

/-- The record of a compiled definition. -/
def compiledRecord (schema : Schema)
    : LogRecord :=
  ⟨.compiler, .info, "Compiled schema definition: root_kind=" ++ schema.kind.word⟩

/-- The records of a compilation. -/
def Assembly.records (assembly : Assembly Schema)
    : List LogRecord :=
  assembly.completed.map (·.record) ++
    match assembly.outcome with
    | .ok schema => [compiledRecord schema]
    | .error _ => []

end Assay.Definition
