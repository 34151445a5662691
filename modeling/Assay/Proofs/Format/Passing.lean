import Assay.Format.Registry

/-! Texts that pass the built-in formats, by the format's check of their characters.
-/

namespace Assay.Format

/-- A text passes the built-in format of a name. -/
def Passes (name text : String)
    : Prop :=
  FormatRegistry.builtIn.check name (.string text) = .ok true

/-- A format that checks the characters of texts passes those that its check holds of. -/
theorem passes_iff_of_textCheck {name text : String} {types : List SimpleType}
    {holds : List Char → Bool}
    (registered : FormatRegistry.builtIn.get? name = some ⟨types, textCheck holds⟩)
    : Passes name text ↔ holds text.toList := by
  simp [Passes, FormatRegistry.check, registered, textCheck, Value.text?]

variable {text : String}

theorem passes_date_iff
    : Passes FormatRegistry.date text ↔ isDate text.toList :=
  passes_iff_of_textCheck rfl

theorem passes_time_iff
    : Passes FormatRegistry.time text ↔ isTime text.toList :=
  passes_iff_of_textCheck rfl

theorem passes_dateTime_iff
    : Passes FormatRegistry.dateTime text ↔ isDateTime text.toList :=
  passes_iff_of_textCheck rfl

theorem passes_uri_iff
    : Passes FormatRegistry.uri text ↔ isUri text.toList :=
  passes_iff_of_textCheck rfl

end Assay.Format
