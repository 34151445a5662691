import Assay.Value.Basic

/-!
Kinds of JSON values, and the simple types that accept them.
-/

namespace Assay

/-- The kinds of JSON values. -/
inductive Kind where
  | null
  | boolean
  | integer
  | decimal
  | string
  | array
  | object
deriving DecidableEq, Repr

/-- The word for a kind. -/
def Kind.word
    : Kind → String
  | .null => "null"
  | .boolean => "boolean"
  | .integer => "integer"
  | .decimal => "decimal"
  | .string => "string"
  | .array => "array"
  | .object => "object"

/-- The kind of a value; what is foreign to JSON has none, except for a policy, which is a text. A
complex number has none either. -/
def Value.kind
    : Value → Except Fault Kind
  | .null => .ok .null
  | .bool _ => .ok .boolean
  | .number (.int _) => .ok .integer
  | .number (.float _) | .number (.decimal _) => .ok .decimal
  | .string _ => .ok .string
  | .array .. => .ok .array
  | .object _ => .ok .object
  | .foreign (.policy _) => .ok .string
  | value => .error (.notJson value.typeName)

/-- The types of leaf schemas. -/
inductive SimpleType where
  | null
  | boolean
  | string
  | number
  | integer
  | any
deriving DecidableEq, Repr, Inhabited

namespace SimpleType

/-- All simple types, in their order. -/
def all : List SimpleType :=
  [.null, .boolean, .string, .number, .integer, .any]

/-- The word for a simple type. -/
def word
    : SimpleType → String
  | .null => "null"
  | .boolean => "boolean"
  | .string => "string"
  | .number => "number"
  | .integer => "integer"
  | .any => "any"

/-- The simple type that a word stands for. -/
def ofWord? (word : String)
    : Option SimpleType :=
  all.find? (·.word = word)

/-- Whether a type is one of numbers. -/
def isNumeric
    : SimpleType → Bool
  | .number | .integer => true
  | _ => false

/-- Whether a type takes values of a kind. -/
def takes
    : SimpleType → Kind → Bool
  | .any, _ => true
  | .number, .integer | .number, .decimal => true
  | .null, .null | .boolean, .boolean | .string, .string | .integer, .integer => true
  | _, _ => false

/-- Whether a type accepts a value. The type of everything accepts what is foreign to JSON too. -/
def accepts (type : SimpleType) (value : Value)
    : Except Fault Bool :=
  if type = .any then .ok true
  else do
    let kind ← value.kind
    return type.takes kind

end SimpleType

end Assay
