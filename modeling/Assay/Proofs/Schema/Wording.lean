import Assay.Proofs.Template.Filling
import Assay.Schema.Violation

/-! Messages of complaints as filled templates. The words of a template are fixed, and what a
document or a schema brings in are arguments: they show as they are, whatever their characters.
-/

namespace Assay
open Template

/-- A message shows texts verbatim, each one behind the one before. -/
def Shows (message : String)
    : List String → Prop
  | [] => True
  | text :: rest => ∃ before after, message = before ++ text ++ after ∧ Shows after rest

theorem Shows.prepend {message : String} {texts : List String} (shows : Shows message texts)
    (words : String)
    : Shows (words ++ message) texts := by
  cases texts with
  | nil => trivial
  | cons text rest =>
      obtain ⟨before, after, rfl, shows⟩ := shows
      exact ⟨words ++ before, after, by simp only [String.append_assoc], shows⟩

theorem Shows.here {message : String} {texts : List String} (shows : Shows message texts)
    (text : String)
    : Shows (text ++ message) (text :: texts) :=
  ⟨"", message, by rw [String.empty_append], shows⟩

/-- A filled template shows the arguments in their order. -/
theorem Template.Part.text_shows (parts : List Part)
    : Shows (Part.text parts) ((Part.arguments parts).map (·.display)) := by
  induction parts with
  | nil => trivial
  | cons part parts ih =>
      have joined : Part.text (part :: parts) = part.filled ++ Part.text parts := by
        simp only [Part.text, List.map_cons, String.join_cons]
      rw [joined]
      cases part with
      | words text => exact ih.prepend text
      | ofText argument => exact ih.here argument
      | ofNumber argument => exact ih.here (toString argument)

namespace Complaint

/-- The parts of the message of a complaint. -/
def parts
    : Complaint → List Part
  | .notOfType type => [.words "Invalid type: must be a ", .ofText type.word]
  | .notAmong value members =>
      [.words "Value ", .ofText value.rendered, .words " must be one of: [",
        .ofText (", ".intercalate (members.map (·.rendered))), .words "]"]
  | .noMatch value source =>
      [.words "String ", .ofText value.rendered, .words " does not match regex pattern '",
        .ofText source, .words "'"]
  | .tooLong value length limit =>
      [.words "String ", .ofText value.rendered, .words " has length ", .ofNumber length,
        .words ", which is greater than maxLength ", .ofNumber limit]
  | .tooShort value length limit =>
      [.words "String ", .ofText value.rendered, .words " has length ", .ofNumber length,
        .words ", which is less than minLength ", .ofNumber limit]
  | .below value bound true =>
      [.words "Value ", .ofText value.rendered, .words " must be greater than minimum ",
        .ofText bound.rendered, .words " (exclusiveMinimum)"]
  | .below value bound false =>
      [.words "Value ", .ofText value.rendered, .words " is less than minimum ",
        .ofText bound.rendered]
  | .above value bound true =>
      [.words "Value ", .ofText value.rendered, .words " must be less than maximum ",
        .ofText bound.rendered, .words " (exclusiveMaximum)"]
  | .above value bound false =>
      [.words "Value ", .ofText value.rendered, .words " is greater than maximum ",
        .ofText bound.rendered]
  | .notInFormat value format =>
      [.words "Value ", .ofText value.rendered, .words " is not a valid ", .ofText format]
  | .notArray => [.words "Invalid type: must be an array"]
  | .tooManyItems size limit =>
      [.words "Current array size of ", .ofNumber size,
        .words " is greater than allowed maximum array size of ", .ofNumber limit]
  | .tooFewItems size limit =>
      [.words "Current array size of ", .ofNumber size,
        .words " is less than allowed minimum array size of ", .ofNumber limit]
  | .notObject => [.words "Invalid type: must be an object"]
  | .missing name => [.words "Missing required property '", .ofText name, .words "'"]
  | .unexpected name => [.words "Unexpected property '", .ofText name, .words "'"]

/-- The message of a complaint is its parts, filled in. -/
theorem text_parts (complaint : Complaint)
    : Part.text complaint.parts = complaint.message := by
  unfold message
  cases complaint with
  | below value bound exclusive | above value bound exclusive =>
      cases exclusive <;>
        simp only [parts, Part.text, List.map_cons, List.map_nil, Part.filled, String.join_cons,
          String.join_nil, String.append_empty, String.append_assoc, if_true,
          Bool.false_eq_true, if_false]
  | _ =>
      simp only [parts, Part.text, List.map_cons, List.map_nil, Part.filled, String.join_cons,
        String.join_nil, String.append_empty, String.append_assoc]

/-- The message of a complaint shows its arguments in their order. -/
theorem shows_arguments (complaint : Complaint)
    : Shows complaint.message ((Part.arguments complaint.parts).map (·.display)) := by
  rw [← text_parts]
  exact Part.text_shows complaint.parts

/-- The numbers that a complaint counts have no more digits than are written. -/
def Writable (complaint : Complaint)
    : Prop :=
  ∀ number, Part.ofNumber number ∈ complaint.parts → (Part.ofNumber number).Fillable

/-- The words of messages hold no percent signs. -/
theorem parts_fillable {complaint : Complaint} (writable : complaint.Writable)
    : ∀ part ∈ complaint.parts, part.Fillable := by
  cases complaint with
  | tooLong | tooShort | tooManyItems | tooFewItems =>
      simpa [parts, Part.Fillable, Writable] using writable
  | below value bound exclusive | above value bound exclusive =>
      cases exclusive <;> simp [parts, Part.Fillable]
  | _ => simp [parts, Part.Fillable]

/-- The message of a complaint is its template with the arguments filled in, each of them as it is:
no percent sign of an argument is read as a directive. -/
theorem messageText_eq {complaint : Complaint} (writable : complaint.Writable)
    : messageText (Part.template complaint.parts) (Part.arguments complaint.parts)
        = .ok complaint.message := by
  rw [messageText_parts (parts_fillable writable), text_parts]

end Complaint

end Assay
