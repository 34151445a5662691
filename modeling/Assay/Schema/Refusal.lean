import Assay.Schema.Keyword
import Assay.Value.Kind
import Assay.Value.Written

/-!
Refusals: why a constraint, a part or a definition of a schema is not taken.
-/

namespace Assay
open Text

/-- What keeps a leaf from changing its type. -/
inductive TypeObstacle where
  | pattern
  | length
  | bound
  | format (shown : String)

/-- The wording of an obstacle. -/
def TypeObstacle.reason
    : TypeObstacle → String
  | .pattern => "a pattern is set"
  | .length => "a length bound is set"
  | .bound => "a numeric bound is set"
  | .format shown => "format '" ++ shown ++ "' is set"

/-- Why something is not taken into a schema. -/
inductive Refusal where
  /-- A leaf's type is not the word for a simple type. -/
  | unknownType (value : Value)
  /-- A leaf keeps its type, because a constraint does not go with the new one. -/
  | typeChange (current new : SimpleType) (obstacle : TypeObstacle)
  /-- A constraint of texts is set on a leaf of another type. -/
  | textsOnly (keyword : Keyword) (type : SimpleType)
  /-- A constraint of numbers is set on a leaf of another type. -/
  | numbersOnly (keyword : Keyword) (type : SimpleType)
  /-- A length or a size is no natural number. -/
  | notNatural (keyword : Keyword) (value : Value)
  /-- A bound is no number. -/
  | notNumber (keyword : Keyword) (value : Value)
  /-- A text cannot be read as a pattern. -/
  | badPattern (source : String) (defect : Pattern.Defect) (position : Option Nat)
  /-- A format does not go with the type of the leaf. -/
  | incompatibleFormat (shown : String) (type : SimpleType) (allowed : List String)
  /-- An enumeration has no members. -/
  | emptyEnumeration
  /-- The type takes no enumeration; it is the keyword assigned that is refused. -/
  | enumerationOfType (type : SimpleType) (keyword : Keyword)
  /-- A member of an enumeration is not of the type. -/
  | enumerationMember (member : Value) (type : SimpleType) (keyword : Keyword)
  /-- The items of an array are described by something that is no schema. -/
  | itemsNotSchema (typeName : String)
  /-- A member is described by something that is no schema. -/
  | entryNotSchema (keyword : Keyword) (typeName : String)
  /-- A property has no name. -/
  | badPropertyName (name : Value)
  /-- A property is declared twice. -/
  | repeatedProperty (shown : String)
  /-- The pattern of a pattern property cannot be read. -/
  | badNamePattern (source : String) (defect : Pattern.Defect) (position : Option Nat)
  /-- A text stands where a collection of names is needed. -/
  | requiredIsText
  /-- A required member has no name. -/
  | badRequiredName (name : Value)
  /-- What is said of additional members is neither a policy nor a schema. -/
  | badPolicy (value : Value)
  /-- A definition is no object. -/
  | definitionNotObject (typeName : String)
  /-- A definition refers to another one. -/
  | referenceUsed
  /-- The type in a definition is no text. -/
  | typeNotText (value : Value)
  /-- A keyword does not go with the type of the definition. -/
  | misplacedKeyword (keyword : Keyword) (typeName : String)
  /-- The value of a keyword has the wrong type. -/
  | wrongType (keyword : Keyword) (value : Value)
  /-- The value of a keyword is no integer. -/
  | notInteger (keyword : Keyword) (value : Value)
  /-- The items of a definition are a list. -/
  | itemsAsList
  /-- A format is not registered where only registered ones are taken. -/
  | unknownFormat (name : String)
  /-- The required members of a definition are neither a list nor a truth value. -/
  | badRequired (value : Value)
  /-- The additional members of a definition are described by neither a truth value nor a
  definition. -/
  | badAdditional (value : Value)

namespace Refusal

/-- The keyword that a refusal concerns. -/
def keyword?
    : Refusal → Option Keyword
  | .unknownType _ | .typeChange .. | .typeNotText _ => some .type
  | .textsOnly keyword _ | .numbersOnly keyword _ | .notNatural keyword _
  | .notNumber keyword _ | .enumerationOfType _ keyword | .enumerationMember _ _ keyword
  | .entryNotSchema keyword _ | .misplacedKeyword keyword _ | .wrongType keyword _
  | .notInteger keyword _ => some keyword
  | .badPattern .. => some .pattern
  | .incompatibleFormat .. | .unknownFormat _ => some .format
  | .emptyEnumeration => some .enumeration
  | .itemsNotSchema _ | .itemsAsList => some .items
  | .badPropertyName _ | .repeatedProperty _ => some .properties
  | .badNamePattern .. => some .patternProperties
  | .requiredIsText | .badRequiredName _ | .badRequired _ => some .required
  | .badPolicy _ | .badAdditional _ => some .additionalProperties
  | .definitionNotObject _ => none
  | .referenceUsed => some .reference

/-- What a refusal tells beside its message. -/
def details
    : Refusal → List (String × Value)
  | .typeChange current .. => [("current_type", .string current.word)]
  | .incompatibleFormat _ type _ => [("type", .string type.word)]
  | _ => []

/-- The wording of a refusal. -/
def message
    : Refusal → String
  | .unknownType value => "Unknown simple type: " ++ value.literal
  | .typeChange _ new obstacle =>
      "Cannot change type to " ++ new.word ++ " because " ++ obstacle.reason
  | .textsOnly keyword type =>
      keyword.word ++ " is only allowed for type string, not " ++ type.word
  | .numbersOnly keyword type =>
      keyword.word ++ " is only allowed for type number or integer, not " ++ type.word
  | .notNatural keyword value =>
      keyword.word ++ " must be a non-negative integer, got " ++ value.literal
  | .notNumber keyword value => keyword.word ++ " must be a number, got " ++ value.literal
  | .badPattern source defect position =>
      "Invalid regular expression for pattern: " ++ quoted source ++ " ("
        ++ Pattern.defectText source defect position ++ ")"
  | .incompatibleFormat shown type allowed =>
      "Format '" ++ shown ++ "' is not allowed for type " ++ type.word
        ++ "; it requires one of " ++ (Value.list (allowed.map .string)).literal
  | .emptyEnumeration => "enum must contain at least one value"
  | .enumerationOfType type _ => "enum is not allowed for type " ++ type.word
  | .enumerationMember member type _ =>
      "enum value " ++ member.literal ++ " is not of type " ++ type.word
  | .itemsNotSchema typeName => "items must be a schema, got " ++ typeName
  | .entryNotSchema keyword typeName =>
      keyword.word ++ " entries must be schemas, got " ++ typeName
  | .badPropertyName name =>
      "Property name must be a non-empty string, got " ++ name.literal
  | .repeatedProperty shown => "Property '" ++ shown ++ "' is already declared"
  | .badNamePattern source defect position =>
      "Invalid patternProperties regex " ++ quoted source ++ " ("
        ++ Pattern.defectText source defect position ++ ")"
  | .requiredIsText => "required must be a collection of property names, not a string"
  | .badRequiredName name =>
      "Required property name must be a non-empty string, got " ++ name.literal
  | .badPolicy value =>
      "additionalProperties must be a boolean, ALLOW, DENY or a schema; got " ++ value.literal
  | .definitionNotObject typeName => "Schema must be an object, got " ++ typeName
  | .referenceUsed => "$ref is not supported; resolve references before compiling"
  | .typeNotText value => "type must be a string, got " ++ value.literal
  | .misplacedKeyword keyword typeName =>
      keyword.word ++ " is not allowed for type " ++ typeName
  | .wrongType keyword value => keyword.word ++ " has the wrong type: " ++ value.literal
  | .notInteger keyword value => keyword.word ++ " must be an integer, got " ++ value.literal
  | .itemsAsList => "Tuple typing (items as a list) is not supported"
  | .unknownFormat name => "Unknown format '" ++ name ++ "'"
  | .badRequired value =>
      "required must be a list of names or a boolean, got " ++ value.literal
  | .badAdditional value =>
      "additionalProperties must be a boolean or a schema, got " ++ value.literal

end Refusal

/-- Why an assignment did not happen: it was refused, or a fault stopped it. -/
inductive Failure where
  | refused (refusal : Refusal)
  | stopped (fault : Fault)

/-- Something given where an `α` is meant, which it need not be. -/
inductive Slot (α : Type) where
  | proper (value : α)
  | stray (value : Value)

/-- A slot with its proper content changed. -/
def Slot.map {α β : Type} (f : α → β)
    : Slot α → Slot β
  | .proper value => .proper (f value)
  | .stray value => .stray value

end Assay
