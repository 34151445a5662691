import Assay.Change
import Assay.Format.Registry
import Assay.Schema.Refusal
import Assay.Schema.Violation
import Assay.Value.Equality
import Assay.Value.Label

/-!
Leaf schemas: a simple type with constraints, assigned one at a time and refused where they do not
go together, and the first check that a value fails.
-/

namespace Assay
open Text

/-- A pattern with the label that it was read from. -/
structure LabelledPattern where
  label : Label
  pattern : Pattern

/-- A schema of simple values. -/
structure Leaf where
  type : SimpleType := .any
  pattern : Option (Slot LabelledPattern) := none
  format : Option (Slot Label) := none
  minLength : Option Nat := none
  maxLength : Option Nat := none
  minimum : Option Number := none
  maximum : Option Number := none
  exclusiveMinimum : Bool := false
  exclusiveMaximum : Bool := false
  enumeration : Option (List Value) := none

/-- A field of a leaf that can be assigned. -/
inductive LeafField where
  | type
  | pattern
  | format
  | minLength
  | maxLength
  | minimum
  | maximum
  | exclusiveMinimum
  | exclusiveMaximum
  | enumeration
deriving DecidableEq, Repr

namespace LeafField

/-- The fields in the order in which a new leaf is given them. -/
def all : List LeafField :=
  [.type, .pattern, .format, .minLength, .maxLength, .minimum, .maximum, .exclusiveMinimum,
    .exclusiveMaximum, .enumeration]

/-- The name of a field. -/
def name
    : LeafField → String
  | .type => "type"
  | .pattern => "pattern"
  | .format => "format"
  | .minLength => "min_length"
  | .maxLength => "max_length"
  | .minimum => "minimum"
  | .maximum => "maximum"
  | .exclusiveMinimum => "exclusive_minimum"
  | .exclusiveMaximum => "exclusive_maximum"
  | .enumeration => "enumeration"

/-- The field of a name. -/
def ofName? (name : String)
    : Option LeafField :=
  all.find? (·.name = name)

/-- Whether a new leaf is given a field: the type always, a flag if it counts as true, any other
field if it is not missing. -/
def given? (field : LeafField) (value : Value)
    : Except Fault Bool :=
  match field with
  | .type => .ok true
  | .exclusiveMinimum | .exclusiveMaximum => value.truth
  | _ => .ok !value.isNull

end LeafField

namespace Slot

/-- What a slot shows when it is displayed. -/
def display
    : Slot Label → String
  | .proper label => label.display
  | .stray value => value.display

/-- Whether the format in a slot goes with a type; what is no name is not registered. -/
def goesWith (formats : FormatRegistry) (type : SimpleType)
    : Slot Label → Bool
  | .proper name => formats.isCompatible name.word type
  | .stray _ => true

/-- Whether a value passes the format in a slot. -/
def passes (formats : FormatRegistry) (value : Value)
    : Slot Label → Except Fault Bool
  | .proper name => formats.check name.word value
  | .stray _ => .ok true

/-- The fault of something that is no pattern of texts and is to search in one. A pattern of bytes
can search, but not in texts. -/
def searchFault
    : Value → Fault
  | .foreign (.bytesPattern ..) => .bytesPatternOnText
  | value => .noMember value.qualifiedTypeName "search"

/-- The literal of the source of the pattern in a slot. -/
def sourceLiteral
    : Slot LabelledPattern → Except Fault String
  | .proper labelled => .ok labelled.label.value.literal
  | .stray (.foreign (.bytesPattern source _)) => .ok source
  | .stray value => .error (.noMember value.qualifiedTypeName "pattern")

/-- Whether the pattern in a slot matches some part of a text. -/
def occursIn (slot : Slot Pattern) (text : String)
    : Except Fault Bool :=
  match slot with
  | .proper pattern => pattern.occursIn text
  | .stray value => .error (searchFault value)

end Slot

namespace Leaf

/-! ## Assignment -/

/-- Whether a bound or an exclusive flag is set. -/
def hasBound (leaf : Leaf)
    : Bool :=
  leaf.minimum.isSome || leaf.maximum.isSome || leaf.exclusiveMinimum || leaf.exclusiveMaximum

/-- What keeps a leaf from a type, the enumeration apart. -/
def obstacle? (formats : FormatRegistry) (leaf : Leaf) (type : SimpleType)
    : Option TypeObstacle :=
  if leaf.pattern.isSome && type ≠ .string then some .pattern
  else if (leaf.minLength.isSome || leaf.maxLength.isSome) && type ≠ .string then some .length
  else if leaf.hasBound && !type.isNumeric then some .bound
  else match leaf.format with
    | some slot => if slot.goesWith formats type then none else some (.format slot.display)
    | none => none

/-- Whether a value can be a member of an enumeration of a type. What has no kind cannot. -/
def canEnumerate (type : SimpleType) (member : Value)
    : Bool :=
  match type.accepts member with
  | .ok accepted => accepted
  | .error _ => false

/-- What is wrong with the members of an enumeration of a type. -/
def enumerationRefusal? (type : SimpleType) (keyword : Keyword) (members : List Value)
    : Option Refusal :=
  if type = .null ∨ type = .any then some (.enumerationOfType type keyword)
  else (members.find? fun member => !canEnumerate type member).map fun member =>
    .enumerationMember member type keyword

/-- The leaf with another type. -/
def setType (formats : FormatRegistry) (leaf : Leaf) (value : Value)
    : Except Failure Leaf :=
  match value.text?.bind SimpleType.ofWord? with
  | none => .error (.refused (.unknownType value))
  | some type =>
      match leaf.obstacle? formats type with
      | some obstacle => .error (.refused (.typeChange leaf.type type obstacle))
      | none =>
          match leaf.enumeration.bind (enumerationRefusal? type .type) with
          | some refusal => .error (.refused refusal)
          | none => .ok { leaf with type }

/-- Refuses a constraint of texts on a leaf of another type. -/
def textsOnly (leaf : Leaf) (keyword : Keyword)
    : Except Failure Unit :=
  if leaf.type = .string then .ok () else .error (.refused (.textsOnly keyword leaf.type))

/-- Refuses a constraint of numbers on a leaf of another type. -/
def numbersOnly (leaf : Leaf) (keyword : Keyword)
    : Except Failure Unit :=
  if leaf.type.isNumeric then .ok () else .error (.refused (.numbersOnly keyword leaf.type))

/-- Asks a value for its truth. -/
def flagOf (value : Value)
    : Except Failure Bool :=
  value.truth.mapError .stopped

/-- A text read as a pattern. -/
def readPattern (refusal : Pattern.Defect → Option Nat → Refusal) (source : String)
    : Except Failure Pattern :=
  match Pattern.compile source with
  | .ok pattern => .ok pattern
  | .error (.malformed defect position) => .error (.refused (refusal defect position))
  | .error (.fault fault) => .error (.stopped fault)

/-- The leaf with another pattern: a text, which is read, or a pattern. Anything else is kept as
it is. -/
def setPattern (leaf : Leaf) (value : Value)
    : Except Failure Leaf := do
  if value.isNull then return { leaf with pattern := none }
  leaf.textsOnly .pattern
  let slot ← match Label.ofValue? value, value with
    | some label, _ => do
        pure (.proper ⟨label, ← readPattern (.badPattern label.word) label.word⟩)
    | none, .foreign (.pattern pattern) => pure (.proper ⟨.text pattern.source, pattern⟩)
    | none, value => pure (.stray value)
  return { leaf with pattern := some slot }

/-- The leaf with another format. What is no text but can serve as a name is kept as it is. -/
def setFormat (formats : FormatRegistry) (leaf : Leaf) (value : Value)
    : Except Failure Leaf :=
  if value.isNull then .ok { leaf with format := none }
  else match Label.ofValue? value, value.hashFault? with
    | some label, _ =>
        if formats.isCompatible label.word leaf.type then
          .ok { leaf with format := some (.proper label) }
        else
          let allowed := FormatRegistry.sortedWords (formats.applicableTypes label.word)
          .error (.refused (.incompatibleFormat label.display leaf.type allowed))
    | _, some fault => .error (.stopped fault)
    | _, none => .ok { leaf with format := some (.stray value) }

/-- A length, none if it is missing. -/
def length? (leaf : Leaf) (keyword : Keyword) (value : Value)
    : Except Failure (Option Nat) := do
  if value.isNull then return none
  leaf.textsOnly keyword
  match value with
  | .number (.int (.ofNat length)) => return some length
  | value => throw (.refused (.notNatural keyword value))

/-- A bound, none if it is missing. -/
def bound? (leaf : Leaf) (keyword : Keyword) (value : Value)
    : Except Failure (Option Number) := do
  if value.isNull then return none
  leaf.numbersOnly keyword
  match value with
  | .number bound => return some bound
  | value => throw (.refused (.notNumber keyword value))

/-- The leaf with another enumeration, whose members a value holds. -/
def setEnumeration (leaf : Leaf) (value : Value)
    : Except Failure Leaf :=
  if value.isNull then .ok { leaf with enumeration := none }
  else match value.elements with
    | .error fault => .error (.stopped fault)
    | .ok [] => .error (.refused .emptyEnumeration)
    | .ok members =>
        match enumerationRefusal? leaf.type .enumeration members with
        | some refusal => .error (.refused refusal)
        | none => .ok { leaf with enumeration := some members }

/-- The leaf with a field assigned. -/
def assign (formats : FormatRegistry) (leaf : Leaf) (field : LeafField) (value : Value)
    : Except Failure Leaf :=
  match field with
  | .type => leaf.setType formats value
  | .pattern => leaf.setPattern value
  | .format => leaf.setFormat formats value
  | .minLength => do return { leaf with minLength := ← leaf.length? .minLength value }
  | .maxLength => do return { leaf with maxLength := ← leaf.length? .maxLength value }
  | .minimum => do return { leaf with minimum := ← leaf.bound? .minimum value }
  | .maximum => do return { leaf with maximum := ← leaf.bound? .maximum value }
  | .exclusiveMinimum => do
      leaf.numbersOnly .exclusiveMinimum
      return { leaf with exclusiveMinimum := ← flagOf value }
  | .exclusiveMaximum => do
      leaf.numbersOnly .exclusiveMaximum
      return { leaf with exclusiveMaximum := ← flagOf value }
  | .enumeration => leaf.setEnumeration value

/-- The assignment of a field. Every setter works out what to write before it writes. -/
def set (formats : FormatRegistry) (field : LeafField) (value : Value)
    : Change Failure Leaf Unit :=
  .write fun leaf => leaf.assign formats field value

/-- The leaf with several fields assigned, one after the other. -/
def assignAll (formats : FormatRegistry) (leaf : Leaf)
    : List (LeafField × Value) → Except Failure Leaf
  | [] => .ok leaf
  | (field, value) :: rest => do
      let leaf ← leaf.assign formats field value
      leaf.assignAll formats rest

/-- The leaf with a field assigned, if it is given the field. -/
def assignIfGiven (formats : FormatRegistry) (leaf : Leaf) (field : LeafField) (value : Value)
    : Except Failure Leaf := do
  if ← (field.given? value).mapError .stopped then leaf.assign formats field value else return leaf

/-- The leaf with those of some fields assigned that it is given, each in its turn. -/
def assignGiven (formats : FormatRegistry) (fields : List (LeafField × Value)) (leaf : Leaf)
    : List LeafField → Except Failure Leaf
  | [] => .ok leaf
  | field :: rest =>
      match fields.lookup field with
      | none => leaf.assignGiven formats fields rest
      | some value => do
          let leaf ← leaf.assignIfGiven formats field value
          leaf.assignGiven formats fields rest

/-- A new leaf with the given fields. -/
def ofFields (formats : FormatRegistry) (fields : List (LeafField × Value))
    : Except Failure Leaf :=
  assignGiven formats fields {} LeafField.all

/-! ## Checks -/

/-- The complaint about a value that is not among those enumerated. -/
def enumerationComplaint? (leaf : Leaf) (value : Value)
    : Except Fault (Option Complaint) :=
  match leaf.enumeration with
  | none => .ok none
  | some members => do
      if ← value.isAmong members then return none else return some (.notAmong value members)

/-- The complaint about a text that the pattern does not match. -/
def patternComplaint? (leaf : Leaf) (value : Value) (text : String)
    : Except Fault (Option Complaint) :=
  match leaf.pattern with
  | none => .ok none
  | some (.proper labelled) => do
      if ← labelled.pattern.occursIn text then return none
      else return some (.noMatch value labelled.label.display)
  | some (.stray other) => .error (Slot.searchFault other)

/-- The complaint about the length of a text. -/
def lengthComplaint? (leaf : Leaf) (value : Value) (text : String)
    : Option Complaint :=
  let length := text.length
  let above := leaf.maxLength.filter (· < length)
  let below := leaf.minLength.filter (length < ·)
  match above, below with
  | some limit, _ => some (.tooLong value length limit)
  | none, some limit => some (.tooShort value length limit)
  | none, none => none

/-- The complaint about a text. -/
def textComplaint? (leaf : Leaf) (value : Value)
    : Except Fault (Option Complaint) :=
  match leaf.type, value.text? with
  | .string, some text => do
      match ← leaf.patternComplaint? value text with
      | some complaint => return some complaint
      | none => return leaf.lengthComplaint? value text
  | _, _ => .ok none

/-- The complaint about a number below the minimum. -/
def minimumComplaint? (leaf : Leaf) (value : Value) (number : Number)
    : Except Fault (Option Complaint) :=
  match leaf.minimum with
  | none => .ok none
  | some bound => do
      let excluded ← if leaf.exclusiveMinimum then number.lessOrEqual bound else pure false
      if excluded then return some (.below value bound true)
      if ← number.less bound then return some (.below value bound false) else return none

/-- The complaint about a number above the maximum. -/
def maximumComplaint? (leaf : Leaf) (value : Value) (number : Number)
    : Except Fault (Option Complaint) :=
  match leaf.maximum with
  | none => .ok none
  | some bound => do
      let excluded ← if leaf.exclusiveMaximum then number.greaterOrEqual bound else pure false
      if excluded then return some (.above value bound true)
      if ← number.greater bound then return some (.above value bound false) else return none

/-- The complaint about a number. -/
def numberComplaint? (leaf : Leaf) (value : Value)
    : Except Fault (Option Complaint) :=
  match leaf.type.isNumeric, value with
  | true, .number number => do
      match ← leaf.minimumComplaint? value number with
      | some complaint => return some complaint
      | none => leaf.maximumComplaint? value number
  | _, _ => .ok none

/-- The complaint about a value that is not in the format. -/
def formatComplaint? (formats : FormatRegistry) (leaf : Leaf) (value : Value)
    : Except Fault (Option Complaint) :=
  match leaf.format with
  | none => .ok none
  | some slot => do
      if ← slot.passes formats value then return none
      else return some (.notInFormat value slot.display)

/-- The first complaint of several checks, tried in order. -/
def firstComplaint?
    : List (Value → Except Fault (Option Complaint)) → Value → Except Fault (Option Complaint)
  | [], _ => .ok none
  | check :: rest, value => do
      match ← check value with
      | some complaint => return some complaint
      | none => firstComplaint? rest value

/-- The complaint about a value of another type. -/
def typeComplaint? (leaf : Leaf) (value : Value)
    : Except Fault (Option Complaint) := do
  if ← leaf.type.accepts value then return none else return some (.notOfType leaf.type)

/-- The first complaint about a value: its type, the enumeration, the text, the number, the
format. -/
def complaint? (formats : FormatRegistry) (leaf : Leaf) (value : Value)
    : Except Fault (Option Complaint) :=
  firstComplaint?
    [leaf.typeComplaint?, leaf.enumerationComplaint?, leaf.textComplaint?,
      leaf.numberComplaint?, leaf.formatComplaint? formats] value

/-- The check of a leaf, which finds one violation at most. -/
def check (formats : FormatRegistry) (leaf : Leaf)
    : Checker := fun value => do
  match ← leaf.complaint? formats value with
  | some complaint => return [.ofComplaint complaint]
  | none => return []

/-! ## Written form -/

/-- A field with its value, if it shows. -/
def shownField (name : String) (value : Option Value)
    : List String :=
  match value with
  | none | some .null | some (.bool false) => []
  | some value => [name ++ "=" ++ value.literal]

/-- The written form of the pattern of a leaf, if it shows. -/
def shownPattern (leaf : Leaf)
    : Except Fault (List String) :=
  match leaf.pattern with
  | none => .ok []
  | some slot => do return ["pattern=" ++ (← slot.sourceLiteral)]

/-- The format of a leaf as a value. -/
def formatValue? (leaf : Leaf)
    : Option Value :=
  leaf.format.map fun
    | .proper label => label.value
    | .stray value => value

/-- The written form of a leaf: its type, and the constraints that are set. -/
def literal (leaf : Leaf)
    : Except Fault String := do
  let pattern ← leaf.shownPattern
  let shown :=
    [shownField "type" (some (.string leaf.type.word)),
      pattern,
      shownField "format" leaf.formatValue?,
      shownField "min_length" (leaf.minLength.map fun length => .int length),
      shownField "max_length" (leaf.maxLength.map fun length => .int length),
      shownField "minimum" (leaf.minimum.map .number),
      shownField "maximum" (leaf.maximum.map .number),
      shownField "exclusive_minimum" (some (.bool leaf.exclusiveMinimum)),
      shownField "exclusive_maximum" (some (.bool leaf.exclusiveMaximum)),
      shownField "enumeration" (leaf.enumeration.map (.array .tuple))].flatten
  return "SimpleTypeSchema(" ++ ", ".intercalate shown ++ ")"

end Leaf

end Assay
