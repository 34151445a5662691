import Assay.Template.Conversion

/-!
Message templates: texts in which percent directives are replaced by arguments, one after the
other.
-/

namespace Assay.Template

/-- What is left of a template and of its arguments. -/
structure Filling where
  rest : List Char
  arguments : List Value

/-- A step of filling a template. -/
abbrev Filler (α : Type) : Type :=
  StateT Filling (Except Defect) α

namespace Filler

/-- Takes the next argument. -/
def argument
    : Filler Value := do
  let filling ← get
  match filling.arguments with
  | [] => throw .tooFewArguments
  | value :: rest =>
      set { filling with arguments := rest }
      return value

/-- Takes the next character of a directive, which may not end yet. -/
def character
    : Filler Char := do
  let filling ← get
  match filling.rest with
  | [] => throw .incomplete
  | c :: rest =>
      set { filling with rest }
      return c

/-- The directive with the flag of a character, if it is one. -/
def flagged? (directive : Directive)
    : Char → Option Directive
  | '-' => some { directive with leftAligned := true }
  | '+' => some { directive with signed := true }
  | ' ' => some { directive with blankSigned := true }
  | '#' => some { directive with alternate := true }
  | '0' => some { directive with zeroFilled := true }
  | _ => none

/-- Takes the flags of a directive, the first character of which is `c`, and the character after
them. -/
def flags (directive : Directive) (c : Char)
    : Nat → Filler (Directive × Char)
  | 0 => throw .incomplete
  | fuel + 1 =>
      match flagged? directive c with
      | some directive => do flags directive (← character) fuel
      | none => return (directive, c)

/-- The value of a decimal digit, if a character is one. -/
def digit? (c : Char)
    : Option Nat :=
  if '0' ≤ c ∧ c ≤ '9' then some (c.toNat - '0'.toNat) else none

/-- Takes the digits that follow `value`, up to `limit`, and the character after them. -/
def digits (limit : Nat) (tooLarge : Defect) (value : Nat)
    : Nat → Filler (Nat × Char)
  | 0 => throw .incomplete
  | fuel + 1 => do
      let c ← character
      match digit? c with
      | none => return (value, c)
      | some digit =>
          if (limit - digit) / 10 < value then throw tooLarge
          digits limit tooLarge (value * 10 + digit) fuel

/-- Takes a width or precision from the arguments, which may not exceed a number of bits. -/
def integerArgument (bits : Nat) (tooLarge : Defect)
    : Filler Int := do
  match ← argument with
  | .bool value => return if value then 1 else 0
  | .number (.int value) => if fitsInto bits value then return value else throw tooLarge
  | _ => throw .integerWidthRequired

/-- Takes a width, the first character of which is `c`, and the character after it. -/
def width (directive : Directive) (c : Char) (fuel : Nat)
    : Filler (Directive × Char) := do
  if c = '*' then
    let value ← integerArgument 64 .argumentWidthTooLarge
    let directive := { directive with
      width := some value.natAbs, leftAligned := directive.leftAligned || value < 0 }
    return (directive, ← character)
  else match digit? c with
    | none => return (directive, c)
    | some digit =>
        let (value, c) ← digits (Nat.pow 2 63 - 1) .widthTooLarge digit fuel
        return ({ directive with width := some value }, c)

/-- Takes a precision, before which `c` stands, and the character after it. -/
def precision (directive : Directive) (c : Char) (fuel : Nat)
    : Filler (Directive × Char) := do
  if c ≠ '.' then return (directive, c)
  let c ← character
  if c = '*' then
    let value ← integerArgument 32 .argumentPrecisionTooLarge
    return ({ directive with precision := some value.toNat }, ← character)
  else match digit? c with
    | none => return ({ directive with precision := some 0 }, c)
    | some digit =>
        let (value, c) ← digits (Nat.pow 2 31 - 1) .precisionTooLarge digit fuel
        return ({ directive with precision := some value }, c)

/-- Takes a directive after its percent sign and writes it; `size` is the length of the whole
template. -/
def directive (size : Nat)
    : Filler String := do
  let fuel := size + 1
  match (← get).rest with
  | '%' :: _ =>
      discard character
      return "%"
  | '(' :: _ => throw .mappingRequired
  | _ =>
      let (directive, c) ← flags {} (← character) fuel
      let (directive, c) ← width directive c fuel
      let (directive, c) ← precision directive c fuel
      let conversion ← if c = 'h' ∨ c = 'l' ∨ c = 'L' then character else pure c
      let index := size - (← get).rest.length - 1
      let value ← argument
      match convert? directive conversion value with
      | none => throw (.unsupported conversion index)
      | some converted => return directive.pad (← converted)

/-- Fills what is left of a template of the length `size`. -/
def remainder (size : Nat)
    : Nat → Filler String
  | 0 => return ""
  | fuel + 1 => do
      let filling ← get
      match filling.rest with
      | [] => return ""
      | c :: rest =>
          set { filling with rest }
          let written ← if c = '%' then directive size else pure (String.singleton c)
          return written ++ (← remainder size fuel)

end Filler

/-- A template with its directives replaced by arguments, each of which must be used. -/
def fill (template : String) (arguments : List Value)
    : Except Defect String := do
  let chars := template.toList
  let (text, filling) ← (Filler.remainder chars.length (chars.length + 1)).run ⟨chars, arguments⟩
  if filling.arguments.isEmpty then return text else throw .tooManyArguments

/-- The text of a message: a template is filled only if there are arguments. -/
def messageText (template : String) (arguments : List Value)
    : Except Defect String :=
  if arguments.isEmpty then .ok template else fill template arguments

end Assay.Template
