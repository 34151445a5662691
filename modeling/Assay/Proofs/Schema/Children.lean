import Assay.Proofs.Schema.Containers
import Assay.Proofs.Schema.Structure
import Mathlib

/-! Arrays and objects that are made of given children. Nothing that is assigned looks into a child,
so that containers are made alike of whatever their children are replaced by.
-/

namespace Assay

variable {α β : Type}

-----------------------------------------------------------------------------------------
-- Containers of children
-----------------------------------------------------------------------------------------

/-- An array of items, with sizes. -/
def ArrayNode.ofItems (items : α) (minItems maxItems : Value)
    : Except Failure (ArrayNode α) := do
  let node ← (ArrayNode.setMinItems minItems).made { items }
  (ArrayNode.setMaxItems maxItems).made node

/-- A child in a slot, or a value where there is none. -/
def Slot.orElse (otherwise : Value)
    : Option α → Slot α
  | some child => .proper child
  | none => .stray otherwise

namespace ObjectNode

/-- A child declared under a name. -/
def declaring (node : ObjectNode α) (entry : String × α)
    : Except Failure (ObjectNode α) :=
  (addProperty (.string entry.1) (.proper entry.2) (.bool false)).made node

/-- A child for the members that a pattern matches. -/
def matching (node : ObjectNode α) (entry : String × α)
    : Except Failure (ObjectNode α) :=
  (addPattern (.string entry.1) (.proper entry.2)).made node

/-- An object of declared children and children by pattern, with required names and what is said of
additional members. -/
def ofChildren (properties : List (String × α)) (required : List Value)
    (patterns : List (String × α)) (additional : Slot α)
    : Except Failure (ObjectNode α) := do
  let node ← properties.foldlM declaring {}
  let node ← (setRequired (.list required)).made node
  let node ← patterns.foldlM matching node
  (setAdditional additional).made node

end ObjectNode

namespace ObjectNode

variable {node after : ObjectNode α}

/-- What is said of additional members stays as it is where children are put into a node. -/
theorem additional_of_foldlM {add : ObjectNode α → String × α → Except Failure (ObjectNode α)}
    (keeps : ∀ {node after} entry, add node entry = .ok after → after.additional = node.additional)
    {entries : List (String × α)} (added : entries.foldlM add node = .ok after)
    : after.additional = node.additional := by
  induction entries generalizing node with
  | nil =>
      obtain rfl := pure_eq_ok_iff.mp added
      rfl
  | cons entry rest ih =>
      rw [List.foldlM_cons, bind_eq_ok_iff] at added
      obtain ⟨next, first, later⟩ := added
      exact (ih later).trans (keeps entry first)

theorem additional_of_declaring (entry : String × α) (declared : node.declaring entry = .ok after)
    : after.additional = node.additional := by
  obtain ⟨label, child, flag, -, -, -, -, rfl⟩ := addProperty_eq_ok_iff.mp declared
  rfl

theorem additional_of_matching (entry : String × α) (added : node.matching entry = .ok after)
    : after.additional = node.additional := by
  obtain ⟨slot, child, -, -, rfl⟩ := addPattern_eq_ok_iff.mp added
  rfl

end ObjectNode

-----------------------------------------------------------------------------------------
-- Children replaced
-----------------------------------------------------------------------------------------

section Replaced

variable (f : α → β)

theorem ArrayNode.map_ofItems (items : α) (minItems maxItems : Value)
    : ArrayNode.ofItems (f items) minItems maxItems
      = (ArrayNode.ofItems items minItems maxItems).map (ArrayNode.map f) := by
  simp only [ArrayNode.ofItems, ArrayNode.setMinItems, ArrayNode.setMaxItems, Change.made_write]
  cases ArrayNode.size .minItems minItems with
  | error failure => rfl
  | ok minItems =>
      cases ArrayNode.size .maxItems maxItems with
      | error failure => rfl
      | ok maxItems => rfl

namespace ObjectNode

variable (node : ObjectNode α)

theorem map_newEntry (name : Value) (child : α)
    : (node.map f).newEntry name (.proper (f child))
      = (node.newEntry name (.proper child)).map fun entry => (entry.1, f entry.2) := by
  unfold newEntry
  cases name? name with
  | none => rfl
  | some label =>
      simp only [declares_map]
      cases node.declares label.word <;> rfl

theorem map_declare (entry : Label × α)
    : (node.map f).declare (entry.1, f entry.2) = (node.declare entry).map f := by
  simp [declare, map, mapEntries]

theorem map_declaring (entry : String × α)
    : (node.map f).declaring (entry.1, f entry.2) = (node.declaring entry).map (map f) := by
  simp only [declaring, Change.made, addProperty_apply, map_newEntry]
  cases node.newEntry (.string entry.1) (.proper entry.2) with
  | error failure => rfl
  | ok entry => exact congrArg Except.ok (map_declare f node entry)

theorem map_matching (entry : String × α)
    : (node.map f).matching (entry.1, f entry.2) = (node.matching entry).map (map f) := by
  simp only [matching, addPattern, Change.made_write]
  cases namePattern (.string entry.1) with
  | error failure => rfl
  | ok slot => simp [ObjectNode.entry, Except.map, map, mapEntries]

theorem map_setRequired (value : Value)
    : (setRequired value).made (node.map f) = ((setRequired value).made node).map (map f) := by
  simp only [setRequired, Change.made_write]
  cases requiredOf value <;> rfl

theorem map_additionalOf (value : Slot α)
    : additionalOf (value.map f) = (additionalOf value).map (Additional.map f) := by
  cases value with
  | proper child => rfl
  | stray value =>
      simp only [Slot.map, additionalOf]
      split <;> rfl

theorem map_setAdditional (value : Slot α)
    : (setAdditional (value.map f)).made (node.map f)
      = ((setAdditional value).made node).map (map f) := by
  simp only [Change.made, setAdditional_apply, map_additionalOf]
  cases additionalOf value <;> rfl

/-- Entries are put into a node one after the other as their replacements are, if each of them
is. -/
theorem foldlM_mapEntries {add : ObjectNode α → String × α → Except Failure (ObjectNode α)}
    {put : ObjectNode β → String × β → Except Failure (ObjectNode β)}
    (alike : ∀ node entry, put (node.map f) (entry.1, f entry.2) = (add node entry).map (map f))
    (entries : List (String × α))
    : (mapEntries f entries).foldlM put (node.map f) = (entries.foldlM add node).map (map f) := by
  induction entries generalizing node with
  | nil => rfl
  | cons entry rest ih =>
      simp only [mapEntries, List.map_cons, List.foldlM_cons, alike] at ih ⊢
      cases add node entry with
      | error failure => rfl
      | ok next => exact ih next

theorem map_ofChildren (properties : List (String × α)) (required : List Value)
    (patterns : List (String × α)) (additional : Slot α)
    : ofChildren (mapEntries f properties) required (mapEntries f patterns) (additional.map f)
      = (ofChildren properties required patterns additional).map (map f) := by
  unfold ofChildren
  have initial : ({} : ObjectNode β) = ({} : ObjectNode α).map f := rfl
  rw [initial, foldlM_mapEntries f {} (map_declaring f)]
  cases properties.foldlM declaring {} with
  | error failure => rfl
  | ok declared =>
      simp only [Except.map, ok_bind, map_setRequired]
      cases (setRequired (.list required)).made declared with
      | error failure => rfl
      | ok listed =>
          simp only [Except.map, ok_bind, foldlM_mapEntries f listed (map_matching f)]
          cases patterns.foldlM matching listed with
          | error failure => rfl
          | ok matched => exact map_setAdditional f matched additional

end ObjectNode

end Replaced

end Assay
