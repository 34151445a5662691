import Assay.Record.Moment
import Assay.Record.Numeral
import Assay.Value.Real

/-!
The fields of records: what a value is read as, and the fields that a record knows.
-/

namespace Assay.Record
open Number Text Reading

/-- The text that a value can be read as. -/
def textOf? (value : Value)
    : Option String :=
  match value with
  | .foreign .bytes => some ""
  | value => value.text?

/-- A text. -/
def readText (value : Value)
    : Reading String :=
  match textOf? value with
  | some text => .ok text
  | none => wrong .stringType

/-- The words for truth and for its opposite. -/
def truthWords : List (String × Bool) :=
  [("1", true), ("on", true), ("t", true), ("true", true), ("y", true), ("yes", true),
    ("0", false), ("off", false), ("f", false), ("false", false), ("n", false), ("no", false)]

/-- The integer that a binary number stands for. -/
def wholeOfBinary
    : Binary64 → Reading Int
  | .nan _ | .infinite _ => wrong .finiteNumber
  | .finite negative mantissa exponent =>
      let whole := Binary64.truncated negative mantissa exponent
      if Number.order? (.int whole) (.float (.finite negative mantissa exponent)) ≠ some .eq then
        wrong .intFromFloat
      else if whole.natAbs < Nat.pow 2 63 then .ok whole
      else wrong .intParsingSize

/-- The integer that a decimal number stands for. -/
def wholeOfDecimal
    : Decimal → Reading Int
  | .nan .. | .infinite _ => wrong .finiteNumber
  | .finite negative coefficient exponent =>
      let whole := Decimal.truncated negative coefficient exponent
      if Number.order? (.int whole) (.decimal (.finite negative coefficient exponent)) = some .eq
      then .ok whole
      else wrong .intFromFloat

/-- A truth value: one itself, a number that is zero or one, or a word. An integer beyond 64 bits
is not even taken for a number. -/
def readTruth (value : Value)
    : Reading Bool :=
  let ofWhole (whole : Reading Int) (otherwise : Issue) : Reading Bool :=
    match whole with
    | .ok 0 => .ok false
    | .ok 1 => .ok true
    | .ok _ => wrong .boolParsing
    | .error _ => wrong otherwise
  match textOf? value, value with
  | some text, _ =>
      match truthWords.lookup (String.ofList (text.toList.map Char.toLower)) with
      | some truth => .ok truth
      | none => wrong .boolParsing
  | none, .bool truth => .ok truth
  | none, .number (.int whole) =>
      if -Int.pow 2 63 ≤ whole ∧ whole < Int.pow 2 63 then ofWhole (.ok whole) .boolType
      else wrong .boolType
  | none, .number (.float number) => ofWhole (wholeOfBinary number) .boolType
  | none, .number (.decimal number) =>
      match number.toBinary64? with
      | some number => ofWhole (wholeOfBinary number) .boolType
      | none => wrong .boolType
  | none, _ => wrong .boolType

/-- An integer: one itself, a truth value, a whole number, or the text of one. -/
def readWhole (value : Value)
    : Reading Int :=
  match textOf? value, value with
  | some text, _ => wholeOfText text
  | none, .bool truth => .ok (if truth then 1 else 0)
  | none, .number (.int whole) => .ok whole
  | none, .number (.float number) => wholeOfBinary number
  | none, .number (.decimal number) => wholeOfDecimal number
  | none, _ => wrong .intType

/-- A binary number: one itself, a truth value, another number, or the text of one. -/
def readReal (value : Value)
    : Reading Binary64 :=
  match textOf? value, value with
  | some text, _ => realOfText text
  | none, value =>
      match value.real with
      | .ok number => .ok number
      | .error _ => wrong .floatType

/-- A moment: the text of one, or a number of seconds. -/
def readMoment (value : Value)
    : Reading Unit :=
  match textOf? value, value with
  | some text, _ => momentOfText text
  | none, .number (.int whole) => momentOfWhole whole
  | none, .number (.float number) => momentOfReal number
  | none, .number (.decimal number) =>
      match number.toBinary64? with
      | some number => momentOfReal number
      | none => wrong .datetimeType
  | none, _ => wrong .datetimeType

/-- An integer that is not negative. -/
def readCount (value : Value)
    : Reading Int := do
  let whole ← readWhole value
  if whole < 0 then wrong .greaterThanEqual else return whole

/-- A binary number that is not negative, which the number that is none does not count as. -/
def readDuration (value : Value)
    : Reading Binary64 := do
  let number ← readReal value
  match Number.order? (.float number) (.int 0) with
  | some .eq | some .gt => return number
  | _ => wrong .greaterThanEqual

/-! ## Named values -/

/-- Named values. -/
abbrev Fields : Type := List (String × Value)

/-- A field that must be given. -/
def needed {α : Type} (fields : Fields) (name : String) (read : Value → Reading α)
    : Reading α :=
  inside (.field name) (match fields.lookup name with
    | some value => read value
    | none => wrong .missing)

/-- A field that stands for `otherwise` when it is not given. -/
def optional {α : Type} (fields : Fields) (name : String) (otherwise : α)
    (read : Value → Reading α)
    : Reading α :=
  match fields.lookup name with
  | some value => inside (.field name) (read value)
  | none => .ok otherwise

/-- Refuses fields that are not known. -/
def onlyKnown (fields : Fields) (known : List String)
    : Reading Unit :=
  let unknown := (fields.map (·.1)).filter fun name => !known.contains name
  if unknown.isEmpty then .ok ()
  else .error (unknown.map fun name => ⟨[.field name], .extraForbidden⟩)

/-- A reading of known fields, after whose problems those of unknown ones come. -/
def closed {α : Type} (fields : Fields) (known : List String) (reading : Reading α)
    : Reading α :=
  both (fun value _ => value) reading (onlyKnown fields known)

end Assay.Record
