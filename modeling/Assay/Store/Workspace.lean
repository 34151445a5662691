import Assay.Definition.Compile
import Assay.Store.Assign

/-!
Workspaces: a store of nodes and registries of formats, both of which can be given names. A name
that is given again stands for the new thing, while the old one lives on in its parents.
-/

namespace Assay

/-- Nodes and registries with the names that some of them have. -/
structure Workspace where
  store : Store := {}
  nodeNames : List (String × NodeId) := []
  registries : Array FormatRegistry := #[.builtIn]
  registryNames : List (String × RegistryId) := []

namespace Workspace

/-- What each registry holds. -/
def formats (workspace : Workspace)
    : Registries :=
  fun id => (workspace.registries[id]?).getD .builtIn

/-- The node of a name. -/
def node? (workspace : Workspace) (name : String)
    : Option NodeId :=
  workspace.nodeNames.lookup name

/-- The registry of a name. -/
def registry? (workspace : Workspace) (name : String)
    : Option RegistryId :=
  workspace.registryNames.lookup name

/-- A node as a value. -/
def valueOf (workspace : Workspace) (id : NodeId)
    : Value :=
  let className := match workspace.store.get? id with
    | some cell => cell.kind.className
    | none => ""
  let text := match workspace.store.literal id with
    | .ok text => text
    | .error _ => className
  .foreign (.node id className text)

/-- The workspace with a name for a new node. -/
def bind (workspace : Workspace) (name : String) (added : NodeId × Store)
    : Workspace :=
  { workspace with
    store := added.2
    nodeNames := Value.putMember workspace.nodeNames name added.1 }

/-- The workspace with a name for the root of a new tree. -/
def bindTree (workspace : Workspace) (name : String) (schema : Schema)
    : Workspace :=
  workspace.bind name (workspace.store.addTree schema)

/-- The workspace with a new registry. -/
def addRegistry (workspace : Workspace) (name : String) (registry : FormatRegistry)
    : Workspace :=
  { workspace with
    registries := workspace.registries.push registry
    registryNames := Value.putMember workspace.registryNames name workspace.registries.size }

/-- The workspace with a registry replaced. -/
def putRegistry (workspace : Workspace) (id : RegistryId) (registry : FormatRegistry)
    : Workspace :=
  { workspace with registries := workspace.registries.setIfInBounds id registry }

/-- What definitions are compiled with under a registry. -/
def setting (workspace : Workspace) (registry : RegistryId) (strictFormats : Bool)
    : Definition.Setting :=
  { strictFormats, registry, formats := workspace.formats registry }

end Workspace

end Assay
