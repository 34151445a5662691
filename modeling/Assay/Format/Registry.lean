import Assay.Format.Clock
import Assay.Format.Uri
import Assay.Text.Casing
import Assay.Value.Kind
import Assay.Value.Written

/-!
Named formats: the types they may be declared on, their checks, and registries of them. A name that
is not registered goes with every type and never fails.
-/

namespace Assay

/-- A format: the simple types it may be declared on, and its check. -/
structure Format where
  types : List SimpleType
  check : Value → Except Fault Bool

namespace Format

/-- A check of texts, which nothing else passes. -/
def textCheck (holds : List Char → Bool) (value : Value)
    : Except Fault Bool :=
  .ok (value.text?.any fun text => holds text.toList)

/-- Whether a text can be read as a pattern. Only defects of the text count; a fault stops the
check. -/
def isPattern (text : String)
    : Except Fault Bool :=
  match Pattern.compile text with
  | .ok _ => .ok true
  | .error (.malformed ..) => .ok false
  | .error (.fault fault) => .error fault

/-- The check of texts that are patterns. -/
def patternCheck (value : Value)
    : Except Fault Bool :=
  match value.text? with
  | some text => isPattern text
  | none => .ok false

/-- A check that everything passes. -/
def alwaysCheck (_ : Value)
    : Except Fault Bool :=
  .ok true

/-- A check that nothing passes. -/
def neverCheck (_ : Value)
    : Except Fault Bool :=
  .ok false

/-- The check of even integers. -/
def evenCheck
    : Value → Except Fault Bool
  | .number (.int value) => .ok (value % 2 == 0)
  | _ => .ok false

/-- The check of texts that are their own lower-case form. -/
def lowerCheck (value : Value)
    : Except Fault Bool :=
  textCheck Text.isLowercased value

/-- The checks that a new format can be given by name. -/
def stockCheck? (name : String)
    : Option (Value → Except Fault Bool) :=
  [("always", alwaysCheck), ("never", neverCheck), ("even", evenCheck),
    ("lower", lowerCheck)].lookup name

end Format

/-- Formats by name. -/
structure FormatRegistry where
  entries : List (String × Format)

namespace FormatRegistry

/-- The registry without formats. -/
def empty : FormatRegistry := ⟨[]⟩

instance : Inhabited FormatRegistry := ⟨empty⟩

/-- The name of the format of dates with times. -/
def dateTime : String := "date-time"

/-- The name of the format of dates. -/
def date : String := "date"

/-- The name of the format of times of day. -/
def time : String := "time"

/-- The name of the format of patterns. -/
def regex : String := "regex"

/-- The name of the format of references to resources. -/
def uri : String := "uri"

/-- The name of the format of milliseconds in universal time. -/
def utcMillisec : String := "utc-millisec"

/-- The registry with the built-in formats. -/
def builtIn : FormatRegistry :=
  ⟨[(dateTime, ⟨[.string], Format.textCheck Format.isDateTime⟩),
    (date, ⟨[.string], Format.textCheck Format.isDate⟩),
    (time, ⟨[.string], Format.textCheck Format.isTime⟩),
    (regex, ⟨[.string], Format.patternCheck⟩),
    (uri, ⟨[.string], Format.textCheck Format.isUri⟩),
    (utcMillisec, ⟨[.number, .integer], Format.alwaysCheck⟩)]⟩

/-- The format of a name. -/
def get? (registry : FormatRegistry) (name : String)
    : Option Format :=
  registry.entries.lookup name

/-- Whether a name has a format. -/
def isRegistered (registry : FormatRegistry) (name : String)
    : Bool :=
  (registry.get? name).isSome

/-- The types that a name may be declared on. -/
def applicableTypes (registry : FormatRegistry) (name : String)
    : List SimpleType :=
  match registry.get? name with
  | some format => format.types
  | none => SimpleType.all

/-- Whether a name may be declared on a type. -/
def isCompatible (registry : FormatRegistry) (name : String) (type : SimpleType)
    : Bool :=
  (registry.applicableTypes name).contains type

/-- Whether a value passes the format of a name. -/
def check (registry : FormatRegistry) (name : String) (value : Value)
    : Except Fault Bool :=
  match registry.get? name with
  | some format => format.check value
  | none => .ok true

/-- A text comes before another, or is the same. -/
def notAfter (a b : String)
    : Bool :=
  decide (a ≤ b)

/-- The registered names in order. -/
def names (registry : FormatRegistry)
    : List String :=
  (registry.entries.map (·.1)).mergeSort notAfter

/-- The words for types in order. -/
def sortedWords (types : List SimpleType)
    : List String :=
  (types.map (·.word)).mergeSort notAfter

/-- Registers a format, or replaces the one of its name. It must have a name and a type. -/
def register (registry : FormatRegistry) (name : String) (types : List SimpleType)
    (check : Value → Except Fault Bool)
    : Except Fault FormatRegistry :=
  let types := types.eraseDups
  if name.isEmpty then .error .namelessFormat
  else if types.isEmpty then .error (.typelessFormat name)
  else .ok ⟨Value.putMember registry.entries name ⟨types, check⟩⟩

/-- The simple types that values stand for, each of which must be the word for one. -/
def typesOf
    : List Value → Except Fault (List SimpleType)
  | [] => .ok []
  | value :: rest =>
      match value.text?.bind SimpleType.ofWord? with
      | none => .error (.unknownTypeName value.literal)
      | some type => return type :: (← typesOf rest)

end FormatRegistry

end Assay
