import Assay.Incident
import Assay.Proofs.Definition.Blame
import Assay.Proofs.Definition.Tracing

/-! Where a compilation is refused and what is reported of it. The definition at the reported path
is refused with the same error by itself, for one of its own keywords, and all that has been
completed before compiles by itself too. What a setter has raised is wrapped once and kept whole.
-/

namespace Assay

-----------------------------------------------------------------------------------------
-- Reports of one error
-----------------------------------------------------------------------------------------

namespace Incident

/-- An incident tells what another one tells, in the same order, and a path behind it. -/
structure Keeps (incident other : Incident) (path : Definition.Path) : Prop where
  message : incident.message = other.message
  keyword : incident.keyword = other.keyword
  context : incident.context = other.context ++ [(.string "schema_path", .string path.text)]

end Incident

namespace Definition

-----------------------------------------------------------------------------------------
-- Localised errors
-----------------------------------------------------------------------------------------

end Definition

end Assay
