import Assay.Proofs.Outcome
import Assay.Template.Basic

/-! Templates whose directives stand for texts and natural numbers. Filling one puts each argument
in its place as it is: only the template is read for percent signs, never what is filled in.
-/

namespace Assay.Template

/-- A part of a template with what is filled in: words that stay as they are, or the place of a text
or of a natural number. -/
inductive Part where
  | words (text : String)
  | ofText (argument : String)
  | ofNumber (argument : Nat)

namespace Part

/-- A part as the template spells it. -/
def spelled
    : Part → String
  | .words text => text
  | .ofText _ => "%s"
  | .ofNumber _ => "%d"

/-- The argument that is filled in. -/
def argument?
    : Part → Option Value
  | .words _ => none
  | .ofText argument => some (.string argument)
  | .ofNumber argument => some (.int argument)

/-- A part with its argument filled in. -/
def filled
    : Part → String
  | .words text => text
  | .ofText argument => argument
  | .ofNumber argument => toString argument

/-- A part can be filled in: its words hold no percent sign, and its number has no more digits than
are written. -/
def Fillable
    : Part → Prop
  | .words text => '%' ∉ text.toList
  | .ofText _ => True
  | .ofNumber argument => (Nat.toDigits 10 argument).length ≤ digitLimit

/-- The steps in which a part is filled: one for a character, and one for a directive. -/
def steps
    : Part → Nat
  | .words text => text.toList.length
  | .ofText _ | .ofNumber _ => 1

theorem spelled_ofText (argument : String)
    : (ofText argument).spelled.toList = ['%', 's'] := by
  simp [spelled]

theorem spelled_ofNumber (argument : Nat)
    : (ofNumber argument).spelled.toList = ['%', 'd'] := by
  simp [spelled]

theorem steps_le_length (part : Part)
    : part.steps ≤ part.spelled.toList.length := by
  cases part with
  | words text => exact Nat.le_refl _
  | ofText argument =>
      rw [spelled_ofText]
      exact Nat.le_succ 1
  | ofNumber argument =>
      rw [spelled_ofNumber]
      exact Nat.le_succ 1

end Part

namespace Filler

variable {size fuel : Nat} {rest : List Char} {arguments : List Value}

/-- A character that is no percent sign is copied. -/
theorem remainder_of_plain {c : Char} (plain : c ≠ '%')
    : (remainder size (fuel + 1)).run ⟨c :: rest, arguments⟩ = (do
        let (text, filling) ← (remainder size fuel).run ⟨rest, arguments⟩
        return (String.singleton c ++ text, filling)) := by
  rw [remainder]
  simp [plain]

/-- A percent sign is replaced by what its directive writes. -/
theorem remainder_of_directive {written : String} {filling : Filling}
    (done : (directive size).run ⟨rest, arguments⟩ = .ok (written, filling))
    : (remainder size (fuel + 1)).run ⟨'%' :: rest, arguments⟩ = (do
        let (text, filling) ← (remainder size fuel).run filling
        return (written ++ text, filling)) := by
  have step : (remainder size (fuel + 1)).run ⟨'%' :: rest, arguments⟩ = (do
      let (written, filling) ← (directive size).run ⟨rest, arguments⟩
      let (text, filling) ← (remainder size fuel).run filling
      return (written ++ text, filling)) := rfl
  rw [step, done]
  rfl

/-- The directive of texts writes a text as it is. -/
theorem directive_text (argument : String)
    : (directive size).run ⟨'s' :: rest, .string argument :: arguments⟩
      = .ok (argument, ⟨rest, arguments⟩) := by
  have converted : (directive size).run ⟨'s' :: rest, .string argument :: arguments⟩
      = .ok (Directive.pad {} (convertText {} argument), ⟨rest, arguments⟩) := rfl
  rw [converted]
  simp [Directive.pad, Directive.sign, convertText]

/-- The directive of integers writes a natural number in decimal digits. -/
theorem directive_number {argument : Nat}
    (short : (Nat.toDigits 10 argument).length ≤ digitLimit)
    : (directive size).run ⟨'d' :: rest, .int argument :: arguments⟩
      = .ok (toString argument, ⟨rest, arguments⟩) := by
  have body : convertInteger {} 'd' argument = .ok ⟨true, false, "", toString argument⟩ := by
    have digits : toString argument = String.ofList (Nat.toDigits 10 argument) :=
      Nat.repr_eq_ofList_toDigits
    simp [convertInteger, Nat.not_lt.mpr short, digits, pure, Except.pure]
  have converted : (directive size).run ⟨'d' :: rest, .int argument :: arguments⟩ = (do
      let (converted, filling) ← (do
        let converted ← convertInteger {} 'd' argument
        return (converted, ⟨rest, arguments⟩))
      return (Directive.pad {} converted, filling)) := rfl
  rw [converted, body]
  simp [Directive.pad, Directive.sign]

/-- Words without percent signs are copied. -/
theorem remainder_of_words {text : List Char} (plain : '%' ∉ text)
    : (remainder size (text.length + fuel)).run ⟨text ++ rest, arguments⟩ = (do
        let (others, filling) ← (remainder size fuel).run ⟨rest, arguments⟩
        return (String.ofList text ++ others, filling)) := by
  induction text with
  | nil =>
      cases filled : (remainder size fuel).run ⟨rest, arguments⟩ <;> simp [filled]
  | cons c text ih =>
      rw [List.mem_cons, not_or] at plain
      obtain ⟨other, plain⟩ := plain
      rw [List.length_cons, Nat.add_right_comm, List.cons_append,
        remainder_of_plain (Ne.symm other), ih plain]
      simp [String.ofList_cons, String.append_assoc]

/-- A part is replaced by what it is filled with. -/
theorem remainder_of_part {part : Part} (fillable : part.Fillable)
    : (remainder size (part.steps + fuel)).run
          ⟨part.spelled.toList ++ rest, part.argument?.toList ++ arguments⟩
        = (do
          let (text, filling) ← (remainder size fuel).run ⟨rest, arguments⟩
          return (part.filled ++ text, filling)) := by
  cases part with
  | words text => exact (remainder_of_words fillable).trans (by rw [String.ofList_toList]; rfl)
  | ofText argument =>
      rw [Nat.add_comm, Part.spelled_ofText]
      exact remainder_of_directive (directive_text argument)
  | ofNumber argument =>
      rw [Nat.add_comm, Part.spelled_ofNumber]
      exact remainder_of_directive (directive_number fillable)

/-- Every part is replaced by what it is filled with, and every argument is used. -/
theorem remainder_of_parts {parts : List Part} (fillable : ∀ part ∈ parts, part.Fillable)
    : (remainder size ((parts.map (·.steps)).sum + (fuel + 1))).run
          ⟨parts.flatMap (·.spelled.toList), parts.filterMap (·.argument?)⟩
        = .ok (String.join (parts.map (·.filled)), ⟨[], []⟩) := by
  induction parts with
  | nil =>
      -- the step to spare finds the end of the template
      rw [List.map_nil, List.sum_nil, Nat.zero_add]
      rfl
  | cons part parts ih =>
      rw [List.forall_mem_cons] at fillable
      have arguments : (part :: parts).filterMap (·.argument?)
          = part.argument?.toList ++ parts.filterMap (·.argument?) := by
        cases part <;> rfl
      rw [List.flatMap_cons, List.map_cons, List.sum_cons, Nat.add_assoc, arguments,
        remainder_of_part fillable.1, ih fillable.2, List.map_cons, String.join_cons]
      rfl

end Filler

section Whole

variable {parts : List Part}

/-- Parts as one template. -/
def Part.template (parts : List Part)
    : String :=
  String.join (parts.map (·.spelled))

/-- What is filled into parts, in order. -/
def Part.arguments (parts : List Part)
    : List Value :=
  parts.filterMap (·.argument?)

/-- Parts filled in, one behind the other. -/
def Part.text (parts : List Part)
    : String :=
  String.join (parts.map (·.filled))

/-- A template of parts that can be filled in is filled with the argument of each of them in its
place. -/
theorem fill_parts (fillable : ∀ part ∈ parts, part.Fillable)
    : fill (Part.template parts) (Part.arguments parts) = .ok (Part.text parts) := by
  have steps : (parts.map (·.steps)).sum ≤ (parts.flatMap (·.spelled.toList)).length := by
    rw [List.length_flatMap]
    exact List.sum_le_sum fun part _ => part.steps_le_length
  obtain ⟨more, length⟩ := Nat.exists_eq_add_of_le steps
  have chars : (Part.template parts).toList = parts.flatMap (·.spelled.toList) := by
    rw [Part.template, String.toList_join, List.flatMap_map]
  rw [fill, chars, length, Nat.add_assoc, Part.arguments, Filler.remainder_of_parts fillable]
  rfl

/-- A message of parts without arguments is their words as they are. -/
theorem messageText_parts (fillable : ∀ part ∈ parts, part.Fillable)
    : messageText (Part.template parts) (Part.arguments parts) = .ok (Part.text parts) := by
  unfold messageText
  split
  · rename_i none
    -- a template without arguments is not filled, but there is no directive in it either
    have words : parts.map (·.spelled) = parts.map (·.filled) := by
      refine List.map_congr_left fun part listed => ?_
      cases part with
      | words text => rfl
      | ofText argument | ofNumber argument =>
          have unused := List.filterMap_eq_nil_iff.mp (List.isEmpty_iff.mp none) _ listed
          cases unused
    rw [Part.template, Part.text, words]
  · exact fill_parts fillable

end Whole

end Assay.Template
