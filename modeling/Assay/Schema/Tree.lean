import Assay.Schema.Container

/-!
Schemas as trees: leaves bound to a registry of formats, arrays and objects. A tree is a check of
documents, once every registry is known.
-/

namespace Assay

/-- A name for a registry of formats; zero stands for the one with the built-in formats alone. -/
abbrev RegistryId : Type := Nat

/-- What each registry holds. -/
abbrev Registries : Type := RegistryId → FormatRegistry

/-- The registry that leaves are bound to unless another one is given. -/
def defaultRegistry : RegistryId := 0

/-- A schema tree. -/
inductive Schema where
  | leaf (registry : RegistryId) (leaf : Leaf)
  | array (node : ArrayNode Schema)
  | object (node : ObjectNode Schema)

instance : Inhabited Schema := ⟨.leaf defaultRegistry {}⟩

/-- The kinds of schemas. -/
inductive SchemaKind where
  | simple
  | array
  | object
deriving DecidableEq, Repr

/-- The word for a kind of schemas. -/
def SchemaKind.word
    : SchemaKind → String
  | .simple => "simple"
  | .array => "array"
  | .object => "object"

/-- The name of the class of a kind of schemas. -/
def SchemaKind.className
    : SchemaKind → String
  | .simple => "SimpleTypeSchema"
  | .array => "ArraySchema"
  | .object => "ObjectSchema"

namespace Schema

/-- The schema that everything conforms to. -/
def anything : Schema := .leaf defaultRegistry {}

/-- The kind of a schema. -/
def kind
    : Schema → SchemaKind
  | .leaf .. => .simple
  | .array _ => .array
  | .object _ => .object

mutual

/-- The check that a tree stands for. -/
def check (formats : Registries)
    : Schema → Checker
  | .leaf registry node => node.check (formats registry)
  | .array ⟨items, minItems, maxItems⟩ =>
      ArrayNode.check ⟨items.check formats, minItems, maxItems⟩
  | .object ⟨properties, required, patterns, additional⟩ =>
      ObjectNode.check
        ⟨propertyChecks formats properties, required, patternChecks formats patterns,
          additionalCheck formats additional⟩

/-- The checks of declared members. -/
def propertyChecks (formats : Registries)
    : List (Label × Schema) → List (Label × Checker)
  | [] => []
  | (name, child) :: rest => (name, child.check formats) :: propertyChecks formats rest

/-- The checks of members by pattern. -/
def patternChecks (formats : Registries)
    : List (Slot Pattern × Schema) → List (Slot Pattern × Checker)
  | [] => []
  | (pattern, child) :: rest => (pattern, child.check formats) :: patternChecks formats rest

/-- The check of additional members. -/
def additionalCheck (formats : Registries)
    : Additional Schema → Additional Checker
  | ⟨policy, none⟩ => ⟨policy, none⟩
  | ⟨policy, some child⟩ => ⟨policy, some (child.check formats)⟩

end

/-- The written form of a schema. -/
def literal
    : Schema → Except Fault String
  | .leaf _ node => node.literal
  | .array ⟨items, minItems, maxItems⟩ => do
      return "ArraySchema(items=" ++ (← items.literal) ++ ", min_items=" ++ toString minItems
        ++ ", max_items=" ++ toString maxItems ++ ")"
  | .object node => .ok node.literal

/-- The type that a schema's mismatch message names. -/
def description?
    : Schema → Option String
  | .leaf _ node => some node.type.word
  | _ => none

end Schema

end Assay
