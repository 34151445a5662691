import Assay.Value.Written

/-!
JSON texts of values, in ASCII: on one line, or indented. What JSON lacks is written as the text of
its display.
-/

namespace Assay
open Text

/-- A code unit as a JSON escape. -/
def unitEscape (unit : Nat)
    : List Char :=
  '\\' :: 'u' :: hexPadded 4 unit

/-- A character inside a JSON text. -/
def jsonChar (c : Char)
    : List Char :=
  let n := c.toNat
  if c = '"' ∨ c = '\\' then ['\\', c]
  else if c = '\n' then ['\\', 'n']
  else if c = '\r' then ['\\', 'r']
  else if c = '\t' then ['\\', 't']
  else if n = 8 then ['\\', 'b']
  else if n = 12 then ['\\', 'f']
  else if 0x20 ≤ n ∧ n < 0x7F then [c]
  else if n < 0x10000 then unitEscape n
  else
    let offset := n - 0x10000
    unitEscape (0xD800 + offset / 0x400) ++ unitEscape (0xDC00 + offset % 0x400)

/-- A text as JSON. -/
def jsonQuoted (s : String)
    : String :=
  String.ofList ('"' :: s.toList.flatMap jsonChar ++ ['"'])

/-- How the parts of arrays and objects are set apart: on one line, or one to a line with two
blanks more at every depth. -/
inductive JsonLayout where
  | line
  | indented (depth : Nat)

/-- The layout of what an array or object holds. -/
def JsonLayout.inner
    : JsonLayout → JsonLayout
  | .line => .line
  | .indented depth => .indented (depth + 1)

/-- What stands before a part that begins a line. -/
def lineStart (depth : Nat)
    : String :=
  "\n" ++ String.ofList (List.replicate (2 * depth) ' ')

/-- Parts between two brackets. -/
def JsonLayout.enclose (layout : JsonLayout) (opening closing : String) (parts : List String)
    : String :=
  if parts.isEmpty then opening ++ closing
  else match layout with
    | .line => opening ++ ", ".intercalate parts ++ closing
    | .indented depth =>
        let start := lineStart (depth + 1)
        opening ++ start ++ ("," ++ start).intercalate parts ++ lineStart depth ++ closing

/-- A number as JSON; a decimal or a complex number is written as a text. -/
def Number.json
    : Number → String
  | .int value => toString value
  | .float value => FloatLayout.json.write value
  | number => jsonQuoted number.text

/-- A number as messages show it: a complex number as JSON, any other without its type. -/
def Number.rendered (number : Number)
    : String :=
  if number.isComplex then number.json else number.text

namespace Value

mutual

/-- A value as JSON in a layout. -/
def jsonIn (layout : JsonLayout)
    : Value → String
  | .null => "null"
  | .bool value => if value then "true" else "false"
  | .number n => n.json
  | .string text => jsonQuoted text
  | .array _ items => layout.enclose "[" "]" (jsonItems layout.inner items)
  | .object members => layout.enclose "\x7b" "\x7d" (jsonMembers layout.inner members)
  | .foreign (.policy policy) => jsonQuoted policy.word
  | .foreign thing => jsonQuoted thing.display

/-- Items as JSON. -/
def jsonItems (layout : JsonLayout)
    : List Value → List String
  | [] => []
  | item :: rest => item.jsonIn layout :: jsonItems layout rest

/-- Members as JSON. -/
def jsonMembers (layout : JsonLayout)
    : List (String × Value) → List String
  | [] => []
  | (name, value) :: rest =>
      (jsonQuoted name ++ ": " ++ value.jsonIn layout) :: jsonMembers layout rest

end

/-- A value as JSON on one line. -/
def json (value : Value)
    : String :=
  value.jsonIn .line

/-- A value as JSON on several lines. -/
def indentedJson (value : Value)
    : String :=
  value.jsonIn (.indented 0)

/-- A value as messages show it: a text between double quotes without escapes, a real number without
its type, anything else as JSON. -/
def rendered (value : Value)
    : String :=
  match value.text? with
  | some _ => "\"" ++ value.display ++ "\""
  | none =>
      match value with
      | .number n => n.rendered
      | value => value.json

end Value

end Assay
