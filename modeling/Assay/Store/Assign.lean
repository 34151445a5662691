import Assay.Store.Basic

/-!
New nodes of a store, and changes of nodes. A node whose making breaks off is seen by nobody, so
its store stays as it was; a change of a node that breaks off leaves what has been written by then.
-/

namespace Assay.Store

/-- A value as a child: a node, or something else. -/
def slot
    : Value → Slot NodeId
  | .foreign (.node handle _ _) => .proper handle
  | value => .stray value

/-- Arguments by name. -/
abbrev Arguments : Type := List (String × Value)

/-- An argument, or what stands for it when it is not given. -/
def argument (arguments : Arguments) (name : String) (otherwise : Value)
    : Value :=
  (arguments.lookup name).getD otherwise

/-- The members of an argument that is an object; nothing if it is empty. -/
def entries (value : Value)
    : Except Failure (List (String × Value)) :=
  match value with
  | .object members => .ok members
  | value => do
      if ← Leaf.flagOf value then throw (.stopped (.noMember value.qualifiedTypeName "items"))
      else return []

/-- The leaf that arguments ask for. -/
def leafOf (formats : FormatRegistry) (arguments : Arguments)
    : Except Failure Leaf :=
  Leaf.ofFields formats (arguments.filterMap fun (name, value) =>
    (LeafField.ofName? name).map (·, value))

/-- The array that arguments ask for, with `anything` as its items unless others are given. -/
def arrayOf (anything : NodeId) (arguments : Arguments)
    : Except Failure (ArrayNode NodeId) := do
  let node : ArrayNode NodeId := { items := anything }
  let items := argument arguments "items" .null
  let node ← if items.isNull then pure node else (ArrayNode.setItems (slot items)).made node
  let node ← (ArrayNode.setMinItems (argument arguments "min_items" (.int 0))).made node
  (ArrayNode.setMaxItems (argument arguments "max_items" (.int 0))).made node

/-- The node with members declared one after the other. -/
def declareAll (node : ObjectNode NodeId)
    : List (String × Value) → Except Failure (ObjectNode NodeId)
  | [] => .ok node
  | (name, schema) :: rest => do
      let node ← (ObjectNode.addProperty (.string name) (slot schema) (.bool false)).made node
      declareAll node rest

/-- The node with patterns added one after the other. -/
def addAllPatterns (node : ObjectNode NodeId)
    : List (String × Value) → Except Failure (ObjectNode NodeId)
  | [] => .ok node
  | (pattern, schema) :: rest => do
      let node ← (ObjectNode.addPattern (.string pattern) (slot schema)).made node
      addAllPatterns node rest

/-- The object that arguments ask for. -/
def objectOf (arguments : Arguments)
    : Except Failure (ObjectNode NodeId) := do
  let node ← declareAll {} (← entries (argument arguments "properties" .null))
  let node ← (ObjectNode.setRequired (argument arguments "required" (.array .tuple []))).made node
  let node ← addAllPatterns node (← entries (argument arguments "pattern_properties" .null))
  let additional := slot (argument arguments "additional_properties" (.bool true))
  (ObjectNode.setAdditional additional).made node

/-- The store with a new leaf. -/
def addLeaf (formats : Registries) (registry : RegistryId) (arguments : Arguments)
    (store : Store)
    : Except Failure (NodeId × Store) := do
  let leaf ← leafOf (formats registry) arguments
  return store.add (.leaf registry leaf)

/-- The store with a new array, and a leaf for its items unless they are given. -/
def addArray (arguments : Arguments) (store : Store)
    : Except Failure (NodeId × Store) := do
  let (anything, store) := store.addTree Schema.anything
  let node ← arrayOf anything arguments
  return store.add (.array node)

/-- The store with a new object. -/
def addObject (arguments : Arguments) (store : Store)
    : Except Failure (NodeId × Store) := do
  let node ← objectOf arguments
  return store.add (.object node)

/-- The fault of something that a node does not offer. -/
def noMember (cell : Cell) (member : String)
    : Failure :=
  .stopped (.noMember cell.kind.className member)

/-- The attributes of a cell that can only be read. -/
def readOnly
    : Cell → List String
  | .leaf .. => ["kind", "description"]
  | .array _ => ["kind"]
  | .object _ => ["kind", "properties", "pattern_properties"]

/-- An attribute of a cell assigned. An attribute that schemas do not have changes nothing. -/
def assignCell (formats : Registries) (name : String) (value : Value)
    : Change Failure Cell Unit := fun cell =>
  if (readOnly cell).contains name then
    .error (.stopped (.readOnly cell.kind.className name)) cell
  else match cell with
    | .leaf registry leaf =>
        match LeafField.ofName? name with
        | some field => (Leaf.set (formats registry) field value).within (.leaf registry) leaf
        | none => .ok () (.leaf registry leaf)
    | .array node =>
        if name = "items" then (ArrayNode.setItems (slot value)).within .array node
        else if name = "min_items" then (ArrayNode.setMinItems value).within .array node
        else if name = "max_items" then (ArrayNode.setMaxItems value).within .array node
        else .ok () (.array node)
    | .object node =>
        if name = "required" then (ObjectNode.setRequired value).within .object node
        else if name = "additional_properties" then
          (ObjectNode.setAdditional (slot value)).within .object node
        else .ok () (.object node)

/-- A change of an object node, which other cells do not offer. -/
def onObject (member : String) (change : Change Failure (ObjectNode NodeId) Unit)
    : Change Failure Cell Unit
  | .object node => change.within .object node
  | cell => .error (noMember cell member) cell

/-- A call on a cell. -/
def changeCell (formats : Registries)
    : NodeCall → Change Failure Cell Unit
  | .assign name value => assignCell formats name value
  | .addProperty name schema required =>
      onObject "add_property" (ObjectNode.addProperty name (slot schema) required)
  | .addPattern pattern schema =>
      onObject "add_pattern_property" (ObjectNode.addPattern pattern (slot schema))

/-- A call on a node of a store. -/
def change (formats : Registries) (id : NodeId) (call : NodeCall)
    : Change Failure Store Unit := fun store =>
  match store.get? id with
  | none => .error (.stopped .endless) store
  | some cell => (changeCell formats call).within (store.put id) cell

/-- Whether the type of a leaf accepts a value, and its description. -/
def accepts (store : Store) (id : NodeId) (value : Value)
    : Except Failure (Bool × String) :=
  match store.get? id with
  | some (.leaf _ leaf) =>
      match leaf.type.accepts value with
      | .ok accepted => .ok (accepted, leaf.type.word)
      | .error fault => .error (.stopped fault)
  | some cell => .error (noMember cell "is_acceptable_type")
  | none => .error (.stopped .endless)

end Assay.Store
