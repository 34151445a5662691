import Assay.Definition.Assembly

/-!
Compiling definitions to schema trees. A definition's children are compiled where the definition
is taken apart; what its keywords ask for is assigned to the new schema one after the other.
-/

namespace Assay.Definition
open Assembly

/-- What definitions are compiled with: whether unregistered formats are refused, and the registry
that leaves are bound to. -/
structure Setting where
  strictFormats : Bool
  registry : RegistryId
  formats : FormatRegistry

/-- The members of a definition. -/
abbrev Members : Type := List (String × Value)

/-- The value of a keyword. -/
def value? (members : Members) (keyword : Keyword)
    : Option Value :=
  Value.member? members keyword.word

/-- Whether a value is a list. -/
def isList
    : Value → Bool
  | .array .list _ => true
  | _ => false

/-- Whether a value is an object. -/
def isObject
    : Value → Bool
  | .object _ => true
  | _ => false

/-- Whether a value is an integer. -/
def isInteger
    : Value → Bool
  | .number (.int _) => true
  | _ => false

/-- Whether a value is a number of JSON. -/
def isNumber
    : Value → Bool
  | .number n => !n.isComplex
  | _ => false

/-- Refuses the first of some keywords that a definition has. -/
def rejectKeywords (members : Members) (typeName : String) (keywords : List Keyword)
    : Assembly Unit :=
  match keywords.find? fun keyword => (value? members keyword).isSome with
  | some keyword => refuse (.misplacedKeyword keyword typeName)
  | none => result ()

/-- Goes on with the value of a keyword, if a definition has it. -/
def withKeyword {α : Type} (members : Members) (keyword : Keyword) (unchanged : α)
    (use : Value → Assembly α)
    : Assembly α :=
  match value? members keyword with
  | some value => use value
  | none => result unchanged

/-! ## Leaves -/

/-- Assigns the value of a keyword to a field of a leaf; `expected` says which values are taken,
and `refusal` what the others are told. -/
def assignKeyword (setting : Setting) (members : Members) (keyword : Keyword) (field : LeafField)
    (expected : Value → Bool) (refusal : Keyword → Value → Refusal) (leaf : Leaf)
    : Assembly Leaf :=
  withKeyword members keyword leaf fun value =>
    if expected value then assigned (leaf.assign setting.formats field value)
    else refuse (refusal keyword value)

/-- Refuses a format that is not registered, where only registered ones are taken. -/
def checkFormatName (setting : Setting) (value : Value)
    : Assembly Unit :=
  let isKnown := match value.text? with
    | some name => setting.formats.isRegistered name
    | none => true
  if setting.strictFormats && !isKnown then refuse (.unknownFormat value.display) else result ()

/-- Assigns a flag to a leaf if it holds; a flag without a value is as good as none. -/
def assignFlag (setting : Setting) (members : Members) (keyword : Keyword) (field : LeafField)
    (leaf : Leaf)
    : Assembly Leaf :=
  withKeyword members keyword leaf fun
    | .null | .bool false => result leaf
    | .bool true => assigned (leaf.assign setting.formats field (.bool true))
    | value => refuse (.wrongType keyword value)

/-- Whether a value is a text. -/
def isText (value : Value)
    : Bool :=
  value.text?.isSome

/-- The leaf that a definition with a type asks for. -/
def leafOf (setting : Setting) (members : Members) (type : Value)
    : Assembly Leaf := do
  let leaf ← assigned (Leaf.ofFields setting.formats [(.type, type)])
  let leaf ← assignKeyword setting members .pattern .pattern isText .wrongType leaf
  withKeyword members .format () (checkFormatName setting)
  let leaf ← assignKeyword setting members .format .format isText .wrongType leaf
  let leaf ← assignKeyword setting members .minLength .minLength isInteger .notInteger leaf
  let leaf ← assignKeyword setting members .maxLength .maxLength isInteger .notInteger leaf
  let leaf ← assignKeyword setting members .minimum .minimum isNumber .notNumber leaf
  let leaf ← assignKeyword setting members .maximum .maximum isNumber .notNumber leaf
  let leaf ← assignFlag setting members .exclusiveMinimum .exclusiveMinimum leaf
  let leaf ← assignFlag setting members .exclusiveMaximum .exclusiveMaximum leaf
  assignKeyword setting members .enumeration .enumeration isList .wrongType leaf

/-! ## Arrays -/

/-- The items of an array with the schema that has been compiled from them. A list of definitions
is refused. -/
def assignItems (members : Members) (child : Option (Assembly Schema))
    (node : ArrayNode Schema)
    : Assembly (ArrayNode Schema) :=
  withKeyword members .items node fun value =>
    if isList value then refuse .itemsAsList
    else match child with
      | some child => do
          let schema ← child.under .items
          assigned ((ArrayNode.setItems (.proper schema)).made node)
      | none => result node

/-- Assigns a size of an array. -/
def assignSize (members : Members) (keyword : Keyword)
    (set : Value → Change Failure (ArrayNode Schema) Unit)
    (node : ArrayNode Schema)
    : Assembly (ArrayNode Schema) :=
  withKeyword members keyword node fun value =>
    if isInteger value then assigned ((set value).made node)
    else refuse (.notInteger keyword value)

/-- The array that a definition asks for. -/
def arrayOf (members : Members) (child : Option (Assembly Schema))
    : Assembly (ArrayNode Schema) := do
  let node ← assignItems members child { items := Schema.anything }
  let node ← assignSize members .minItems ArrayNode.setMinItems node
  assignSize members .maxItems ArrayNode.setMaxItems node

/-! ## Objects -/

/-- A definition inside another one: the name it stands under, whether it calls itself required,
and what has been compiled from it. -/
structure Entry where
  name : String
  isRequired : Bool
  schema : Assembly Schema

/-- Whether a definition calls itself required. -/
def callsItselfRequired
    : Value → Bool
  | .object members =>
      match value? members .required with
      | some (.bool required) => required
      | _ => false
  | _ => false

/-- Refuses the value of a keyword that is no object. -/
def expectObject (members : Members) (keyword : Keyword)
    : Assembly Unit :=
  withKeyword members keyword () fun value =>
    if isObject value then result () else refuse (.wrongType keyword value)

/-- Declares the members that a definition lists. -/
def addProperties (node : ObjectNode Schema)
    : List Entry → Assembly (ObjectNode Schema)
  | [] => result node
  | entry :: rest => do
      let schema ← entry.schema.under (.property entry.name)
      let declaration := ObjectNode.addProperty (.string entry.name) (.proper schema) (.bool false)
      let node ← assigned (declaration.made node)
      addProperties node rest

/-- Adds the patterns of members that a definition lists. -/
def addPatterns (node : ObjectNode Schema)
    : List Entry → Assembly (ObjectNode Schema)
  | [] => result node
  | entry :: rest => do
      let schema ← entry.schema.under (.pattern entry.name)
      let node ← assigned ((ObjectNode.addPattern (.string entry.name) (.proper schema)).made node)
      addPatterns node rest

/-- The required names that a definition lists itself. -/
def listedRequired (members : Members)
    : Assembly (List Value) :=
  withKeyword members .required [] fun
    | .array .list names => result names
    | .null | .bool _ => result []
    | value => refuse (.badRequired value)

/-- Assigns what a definition says of additional members, with the schema that has been compiled
from it. -/
def assignAdditional (members : Members) (child : Option (Assembly Schema))
    (node : ObjectNode Schema)
    : Assembly (ObjectNode Schema) :=
  withKeyword members .additionalProperties node fun
    | .bool allowed => assigned ((ObjectNode.setAdditional (.stray (.bool allowed))).made node)
    | .object _ =>
        match child with
        | some child => do
            let schema ← child.under .additional
            assigned ((ObjectNode.setAdditional (.proper schema)).made node)
        | none => result node
    | value => refuse (.badAdditional value)

/-- The object that a definition asks for. -/
def objectOf (members : Members) (properties patterns : List Entry)
    (additional : Option (Assembly Schema))
    : Assembly (ObjectNode Schema) := do
  expectObject members .properties
  let node ← addProperties {} properties
  let flagged := (properties.filter (·.isRequired)).map fun entry => Value.string entry.name
  let listed ← listedRequired members
  let node ← assigned ((ObjectNode.setRequired (.list (flagged ++ listed))).made node)
  expectObject members .patternProperties
  let node ← addPatterns node patterns
  assignAdditional members additional node

/-! ## Definitions -/

/-- The type that a definition asks for, which must be a text. -/
def typeOf (members : Members)
    : Assembly Value :=
  withKeyword members .type (.string SimpleType.any.word) fun value =>
    if isText value then result value else refuse (.typeNotText value)

/-- Refuses a list of required names on a leaf. -/
def rejectRequiredList (members : Members) (typeName : String)
    : Assembly Unit :=
  if ((value? members .required).map isList).getD false then
    refuse (.misplacedKeyword .required typeName)
  else result ()

mutual

/-- Compiles a definition. -/
def compile (setting : Setting)
    : Value → Assembly Schema
  | .object members => do
      if (value? members .reference).isSome then refuse .referenceUsed
      let type ← typeOf members
      let typeName := type.display
      caught do
        if typeName = SchemaKind.array.word then
          rejectKeywords members typeName (Keyword.ofLeaves ++ Keyword.ofObjects)
          let node ← arrayOf members (childAt setting .items members)
          complete (.array node)
        else if typeName = SchemaKind.object.word then
          rejectKeywords members typeName (Keyword.ofLeaves ++ Keyword.ofArrays)
          let node ← objectOf members (entriesAt setting .properties members)
            (entriesAt setting .patternProperties members)
            (childAt setting .additionalProperties members)
          complete (.object node)
        else
          rejectKeywords members typeName (Keyword.ofArrays ++ Keyword.ofObjects)
          rejectRequiredList members typeName
          let leaf ← leafOf setting members type
          complete (.leaf setting.registry leaf)
  | value => refuse (.definitionNotObject value.typeName)

/-- The definition at a keyword, compiled. -/
def childAt (setting : Setting) (keyword : Keyword)
    : List (String × Value) → Option (Assembly Schema)
  | [] => none
  | (name, value) :: rest =>
      if name = keyword.word then some (compile setting value)
      else childAt setting keyword rest

/-- The definitions in the object at a keyword, compiled. -/
def entriesAt (setting : Setting) (keyword : Keyword)
    : List (String × Value) → List Entry
  | [] => []
  | (name, value) :: rest =>
      if name = keyword.word then entriesOf setting value else entriesAt setting keyword rest

/-- The definitions in an object, compiled. -/
def entriesOf (setting : Setting)
    : Value → List Entry
  | .object members => entriesIn setting members
  | _ => []

/-- Definitions with names, compiled. -/
def entriesIn (setting : Setting)
    : List (String × Value) → List Entry
  | [] => []
  | (name, value) :: rest =>
      ⟨name, callsItselfRequired value, compile setting value⟩ :: entriesIn setting rest

end

end Assay.Definition
