import Assay.Value.Basic

/-!
Written forms of values: the literal, which shows quotes and types, and the display, which shows a
text as it is.
-/

namespace Assay
open Text

namespace Pattern

/-- The names of the modes that a pattern's literal shows. -/
def Mode.constants (mode : Mode)
    : List String :=
  [(mode.template, "re.TEMPLATE"), (mode.caseless, "re.IGNORECASE"),
    (mode.multiline, "re.MULTILINE"), (mode.dotAll, "re.DOTALL"),
    (mode.verbose, "re.VERBOSE"), (mode.ascii, "re.ASCII")].filterMap fun (isOn, name) =>
      if isOn then some name else none

/-- The most characters of its text that a pattern's literal shows. -/
def shownLength : Nat := 200

/-- A pattern's literal: the beginning of its quoted text, and its modes. -/
def literal (pattern : Pattern)
    : String :=
  let shown := String.ofList ((quoted pattern.source).toList.take shownLength)
  let modes := pattern.mode.constants
  "re.compile(" ++ shown ++
    (if modes.isEmpty then "" else ", " ++ "|".intercalate modes) ++ ")"

end Pattern

/-- A policy's literal. -/
def Policy.literal (policy : Policy)
    : String :=
  "<AdditionalProperties." ++ policy.constant ++ ": " ++ quoted policy.word ++ ">"

/-- The literal of something foreign to JSON. -/
def Foreign.literal {α : Type}
    : Foreign α → String
  | .bytes => "b''"
  | .set => "set()"
  | .pattern p => p.literal
  | .bytesPattern _ literal => literal
  | .policy p => p.literal
  | .node _ _ text => text
  | .thing t => t.literal

/-- The display of something foreign to JSON, which mostly is its literal. -/
def Foreign.display {α : Type}
    : Foreign α → String
  | .policy p => "AdditionalProperties." ++ p.constant
  | .thing t => t.display
  | other => other.literal

/-- The literal of a number, which tells decimal numbers apart. -/
def Number.literal
    : Number → String
  | .decimal value => "Decimal('" ++ value.text ++ "')"
  | number => number.text

namespace Value

mutual

/-- A value's literal. -/
def literal
    : Value → String
  | .null => "None"
  | .bool value => if value then "True" else "False"
  | .number n => n.literal
  | .string text => quoted text
  | .array .list items => "[" ++ ", ".intercalate (itemLiterals items) ++ "]"
  | .array .tuple items =>
      match itemLiterals items with
      | [item] => "(" ++ item ++ ",)"
      | items => "(" ++ ", ".intercalate items ++ ")"
  | .object members => "\x7b" ++ ", ".intercalate (memberLiterals members) ++ "\x7d"
  | .foreign thing => thing.literal

/-- The literals of items. -/
def itemLiterals
    : List Value → List String
  | [] => []
  | item :: rest => item.literal :: itemLiterals rest

/-- The literals of members. -/
def memberLiterals
    : List (String × Value) → List String
  | [] => []
  | (name, value) :: rest => (quoted name ++ ": " ++ value.literal) :: memberLiterals rest

end

/-- A value's display: a text as it is, a number without its type, anything else as its
literal. -/
def display
    : Value → String
  | .string text => text
  | .number n => n.text
  | .foreign thing => thing.display
  | value => value.literal

end Value

end Assay
