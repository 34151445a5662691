import Assay.Value.Written

/-!
Labels: what can stand where a name or a source is meant. A label counts as a text, and shows
itself as the value that it was given as.
-/

namespace Assay

/-- A text, or a policy, which counts as the text of its word. -/
inductive Label where
  | text (text : String)
  | policy (policy : Policy)
deriving DecidableEq, Repr

namespace Label

/-- The text that a label counts as. -/
def word
    : Label → String
  | .text s => s
  | .policy p => p.word

/-- A label as a value. -/
def value
    : Label → Value
  | .text s => .string s
  | .policy p => .foreign (.policy p)

/-- The label that a value is, if it counts as a text. -/
def ofValue?
    : Value → Option Label
  | .string s => some (.text s)
  | .foreign (.policy p) => some (.policy p)
  | _ => none

/-- What counts as a text is a label of that text. -/
theorem word_ofValue? (value : Value)
    : (ofValue? value).map word = value.text? := by
  unfold ofValue? Value.text?
  split <;> simp_all [word]

/-- A label is shown as the value that it was given as. -/
theorem ofValue?_value (label : Label)
    : ofValue? label.value = some label := by
  cases label <;> rfl

/-- What a label shows when it is displayed. -/
def display (label : Label)
    : String :=
  label.value.display

end Label

end Assay
