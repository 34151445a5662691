/-!
The keywords of schema definitions, and which kinds of schemas take them.
-/

namespace Assay

/-- A keyword of schema definitions. -/
inductive Keyword where
  | reference
  | type
  | pattern
  | format
  | minLength
  | maxLength
  | minimum
  | maximum
  | exclusiveMinimum
  | exclusiveMaximum
  | enumeration
  | items
  | minItems
  | maxItems
  | properties
  | patternProperties
  | additionalProperties
  | required
deriving DecidableEq, Repr

namespace Keyword

/-- The key that a keyword is written as. -/
def word
    : Keyword → String
  | .reference => "$ref"
  | .type => "type"
  | .pattern => "pattern"
  | .format => "format"
  | .minLength => "minLength"
  | .maxLength => "maxLength"
  | .minimum => "minimum"
  | .maximum => "maximum"
  | .exclusiveMinimum => "exclusiveMinimum"
  | .exclusiveMaximum => "exclusiveMaximum"
  | .enumeration => "enum"
  | .items => "items"
  | .minItems => "minItems"
  | .maxItems => "maxItems"
  | .properties => "properties"
  | .patternProperties => "patternProperties"
  | .additionalProperties => "additionalProperties"
  | .required => "required"

/-- The keywords of leaves. -/
def ofLeaves : List Keyword :=
  [.pattern, .format, .minLength, .maxLength, .minimum, .maximum, .exclusiveMinimum,
    .exclusiveMaximum, .enumeration]

/-- The keywords of arrays. -/
def ofArrays : List Keyword :=
  [.items, .minItems, .maxItems]

/-- The keywords of objects, apart from the one that names required members. -/
def ofObjects : List Keyword :=
  [.properties, .patternProperties, .additionalProperties]

end Keyword

end Assay
