import Assay.Schema.Tree

/-!
Stores of schema nodes that can be shared: a node's children are other nodes of the store, so a
change of a node shows in every parent.
-/

namespace Assay

/-- A node's place in its store. -/
abbrev NodeId : Type := Nat

/-- What a store holds in one place. -/
inductive Cell where
  | leaf (registry : RegistryId) (leaf : Leaf)
  | array (node : ArrayNode NodeId)
  | object (node : ObjectNode NodeId)

/-- The kind of the schema in a cell. -/
def Cell.kind
    : Cell → SchemaKind
  | .leaf .. => .simple
  | .array _ => .array
  | .object _ => .object

/-- A call on a node, with any values: an attribute is assigned, or a member or a pattern of members
is added. -/
inductive NodeCall where
  | assign (name : String) (value : Value)
  | addProperty (name schema required : Value)
  | addPattern (pattern schema : Value)

/-- Schema nodes by their places. -/
structure Store where
  cells : Array Cell := #[]

namespace Store

/-- The cell of a node. -/
def get? (store : Store) (id : NodeId)
    : Option Cell :=
  store.cells[id]?

/-- The store with one more cell, and its place. -/
def add (store : Store) (cell : Cell)
    : NodeId × Store :=
  (store.cells.size, { store with cells := store.cells.push cell })

/-- The store with the cell of a node replaced. -/
def put (store : Store) (id : NodeId) (cell : Cell)
    : Store :=
  { store with cells := store.cells.setIfInBounds id cell }

@[simp] theorem get?_add_self (store : Store) (cell : Cell)
    : (store.add cell).2.get? (store.add cell).1 = some cell := by
  simp [add, get?]

/-- A new cell leaves the others where they are. -/
theorem get?_add_of_lt (store : Store) (cell : Cell) {id : NodeId} (h : id < store.cells.size)
    : (store.add cell).2.get? id = store.get? id := by
  simp [add, get?, Array.getElem?_push, Nat.ne_of_lt h]

theorem get?_put_self (store : Store) (cell : Cell) {id : NodeId} (h : id < store.cells.size)
    : (store.put id cell).get? id = some cell := by
  simp [put, get?, h]

theorem get?_put_of_ne (store : Store) (cell : Cell) {id other : NodeId} (h : other ≠ id)
    : (store.put id cell).get? other = store.get? other := by
  simp [put, get?, Array.getElem?_setIfInBounds_ne (Ne.symm h)]

mutual

/-- The store with the nodes of a tree, and the place of its root. -/
def addTree
    : Schema → Store → NodeId × Store
  | .leaf registry leaf, store => store.add (.leaf registry leaf)
  | .array ⟨items, minItems, maxItems⟩, store =>
      let (items, store) := addTree items store
      store.add (.array ⟨items, minItems, maxItems⟩)
  | .object ⟨properties, required, patterns, additional⟩, store =>
      let (properties, store) := addProperties properties store
      let (patterns, store) := addPatterns patterns store
      let (additional, store) := addAdditional additional store
      store.add (.object ⟨properties, required, patterns, additional⟩)

/-- The store with the trees of declared members, and the places of their roots. -/
def addProperties
    : List (Label × Schema) → Store → List (Label × NodeId) × Store
  | [], store => ([], store)
  | (name, child) :: rest, store =>
      let (child, store) := addTree child store
      let (others, store) := addProperties rest store
      ((name, child) :: others, store)

/-- The store with the trees of members by pattern, and the places of their roots. -/
def addPatterns
    : List (Slot Pattern × Schema) → Store → List (Slot Pattern × NodeId) × Store
  | [], store => ([], store)
  | (pattern, child) :: rest, store =>
      let (child, store) := addTree child store
      let (others, store) := addPatterns rest store
      ((pattern, child) :: others, store)

/-- The store with the tree of additional members, and the place of its root. -/
def addAdditional
    : Additional Schema → Store → Additional NodeId × Store
  | ⟨policy, none⟩, store => (⟨policy, none⟩, store)
  | ⟨policy, some child⟩, store =>
      let (child, store) := addTree child store
      (⟨policy, some child⟩, store)

end

/-- The tree below a node, `depth` levels deep at most. -/
def unfoldTo (store : Store)
    : Nat → NodeId → Option Schema
  | 0, _ => none
  | depth + 1, id => do
      match ← store.get? id with
      | .leaf registry leaf => return .leaf registry leaf
      | .array node => return .array (← node.map? (store.unfoldTo depth))
      | .object node => return .object (← node.map? (store.unfoldTo depth))

/-- The tree below a node, unless a node holds itself. No tree has more levels than the store has
nodes. -/
def tree? (store : Store) (id : NodeId)
    : Option Schema :=
  store.unfoldTo store.cells.size id

/-- The check that a node stands for, looking its children up `depth` levels deep at most. -/
def checkTo (store : Store) (formats : Registries)
    : Nat → NodeId → Checker
  | 0, _, _ => .error .endless
  | depth + 1, id, value =>
      match store.get? id with
      | some (.leaf registry leaf) => leaf.check (formats registry) value
      | some (.array node) => (node.map (store.checkTo formats depth)).check value
      | some (.object node) => (node.map (store.checkTo formats depth)).check value
      | none => .error .endless

/-- The check that a node stands for. -/
def check (store : Store) (formats : Registries) (id : NodeId)
    : Checker :=
  store.checkTo formats store.cells.size id

/-- The written form of a node. -/
def literal (store : Store) (id : NodeId)
    : Except Fault String :=
  match store.tree? id with
  | some schema => schema.literal
  | none => .error .endless

end Store

end Assay
