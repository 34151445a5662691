import Assay.Proofs.Leaf.Admission
import Assay.Proofs.Leaf.Checks
import Assay.Proofs.Schema.Wording

/-! What leaves report: the first of eight checks that fails, with a message that shows the value
and what it was checked against, each text as it is.
-/

namespace Assay
open Template

/-- A compiled pattern keeps the text that it has been read from. -/
theorem Pattern.source_of_compile {source : String} {mode : Pattern.Mode} {pattern : Pattern}
    (compiled : Pattern.compile source mode = .ok pattern)
    : pattern.source = source := by
  unfold Pattern.compile at compiled
  simp only [bind_eq_ok_iff] at compiled
  obtain ⟨reading, -, compiled⟩ := compiled
  split at compiled
  · cases compiled
  · split at compiled
    · cases compiled
    · obtain rfl := pure_eq_ok_iff.mp compiled
      rfl

namespace Leaf

variable {formats : FormatRegistry} {leaf : Leaf} {value : Value}

/-- The label of the pattern of a leaf is the source of the pattern. -/
def Labelled (leaf : Leaf)
    : Prop :=
  ∀ labelled, leaf.pattern = some (.proper labelled) → labelled.label.word = labelled.pattern.source

theorem GivesPattern.source {labelled : LabelledPattern} (gives : GivesPattern value labelled)
    : labelled.label.word = labelled.pattern.source := by
  cases gives with
  | text _ compiled => exact (Pattern.source_of_compile compiled).symm
  | compiled => rfl

theorem labelled_of_assign {after : Leaf} {field : LeafField} (labelled : leaf.Labelled)
    (assigned : leaf.assign formats field value = .ok after)
    : after.Labelled := by
  by_cases escapes : leaf.Escapes field value
  · -- what is stored unchecked is no pattern, and has no label
    cases escapes with
    | strayPattern texts other =>
        obtain rfl := Except.ok.inj ((setPattern_of_stray texts other).symm.trans assigned)
        intro labelled held
        cases held
    | strayFormat other =>
        rcases @setFormat_of_stray formats leaf _ other with stored | stopped
        · obtain rfl := Except.ok.inj (stored.symm.trans assigned)
          exact labelled
        · obtain ⟨fault, stopped⟩ := stopped
          cases stopped.symm.trans assigned
    | unreadable texts text stops =>
        cases ((setPattern_label_eq_stopped_iff text).mpr ⟨texts, stops⟩).symm.trans assigned
    | notIterable given stops => cases (setEnumeration_stopped given stops).symm.trans assigned
    | complexBound own =>
        rcases own with rfl | rfl
        · obtain ⟨read, -, rfl⟩ := bind_pure_eq_ok_iff.mp assigned
          exact labelled
        · obtain ⟨read, -, rfl⟩ := bind_pure_eq_ok_iff.mp assigned
          exact labelled
    | untold own numbers stops =>
        rcases own with rfl | rfl
        · obtain ⟨-, flag, told, -⟩ := flag_eq_ok_iff.mp assigned
          cases stops.symm.trans told
        · obtain ⟨-, flag, told, -⟩ := flag_eq_ok_iff.mp assigned
          cases stops.symm.trans told
  · have honours := (@assign_honours_iff formats leaf _ _).mpr escapes
    rw [assigned, Honours.ok_iff] at honours
    cases honours with
    | pattern gives =>
        intro labelled held
        obtain rfl := Slot.proper.inj (Option.some.inj held)
        exact gives.source
    | noPattern =>
        intro labelled held
        cases held
    | _ => exact labelled

/-- Leaves that can be made by assigning fields, whatever they are assigned and whichever formats
are registered meanwhile. -/
inductive Made : Leaf → Prop
  | initial : Made {}
  | assigned {formats leaf field value after} (before : Made leaf)
    (assigned : leaf.assign formats field value = .ok after)
    : Made after

/-- Leaves show the sources of their patterns, by induction on the assignments. -/
theorem Made.labelled (made : leaf.Made)
    : leaf.Labelled := by
  induction made with
  | initial =>
      intro labelled held
      cases held
  | assigned _ assigned ih => exact labelled_of_assign ih assigned

-----------------------------------------------------------------------------------------
-- What the messages show
-----------------------------------------------------------------------------------------

/-- A message names the value that fails a check, and what of the leaf it fails. -/
inductive Names (leaf : Leaf) (value : Value) : LeafCheck → String → Prop
  | type
    : leaf.Names value .type ("Invalid type: must be a " ++ leaf.type.word)
  | enumeration {members message} (set : leaf.enumeration = some members)
    (shows : Shows message [value.rendered, ", ".intercalate (members.map (·.rendered))])
    : leaf.Names value .enumeration message
  -- a source shows itself as it was given: a text as it is, a policy by its own name
  | pattern {labelled message} (set : leaf.pattern = some (.proper labelled))
    (source : labelled.label.word = labelled.pattern.source)
    (shows : Shows message [value.rendered, labelled.label.display])
    : leaf.Names value .pattern message
  | maxLength {text limit message} (reads : value.text? = some text)
    (set : leaf.maxLength = some limit)
    (shows : Shows message [value.rendered, toString text.length, toString limit])
    : leaf.Names value .maxLength message
  | minLength {text limit message} (reads : value.text? = some text)
    (set : leaf.minLength = some limit)
    (shows : Shows message [value.rendered, toString text.length, toString limit])
    : leaf.Names value .minLength message
  | minimum {bound start} (set : leaf.minimum = some bound) (shows : Shows start [value.rendered])
    : leaf.Names value .minimum
        (start ++ (Value.number bound).rendered
          ++ if leaf.exclusiveMinimum then " (exclusiveMinimum)" else "")
  | maximum {bound start} (set : leaf.maximum = some bound) (shows : Shows start [value.rendered])
    : leaf.Names value .maximum
        (start ++ (Value.number bound).rendered
          ++ if leaf.exclusiveMaximum then " (exclusiveMaximum)" else "")
  | format {label message} (set : leaf.format = some (.proper label))
    (shows : Shows message [value.rendered, label.display])
    : leaf.Names value .format message

-----------------------------------------------------------------------------------------
-- What a complaint is made of
-----------------------------------------------------------------------------------------

theorem whereRead_eq_some_iff {α : Type} {read : Value → Option α}
    {check : Value → α → Except Fault (Option Complaint)} {complaint : Complaint}
    : whereRead read check value = .ok (some complaint)
      ↔ ∃ part, read value = some part ∧ check value part = .ok (some complaint) := by
  unfold whereRead
  cases read value with
  | none => simp
  | some part => simp

/-- A question whose answer decides between nothing and a finding leads to that finding alone. -/
theorem noneIf_eq_some {question : Except Fault Bool} {finding found : Complaint}
    (returned : (do if ← question then return none else return some finding) = .ok (some found))
    : found = finding := by
  obtain ⟨held, -, returned⟩ := bind_eq_ok_iff.mp returned
  cases held with
  | true => cases returned
  | false => exact (Option.some.inj (pure_eq_ok_iff.mp returned)).symm

/-- A bound that is broken is found to be broken as an exclusive one exactly if it is exclusive:
what stands below a bound is not level with it or above. -/
theorem bound_eq_some {apart apart' : Fault} {exclusive : Bool} {number bound : Number}
    {broken : Bool → Complaint} {found : Complaint}
    : (do
        let level ←
          if exclusive then Number.compared apart (· != Ordering.gt) number bound else pure false
        if level then return some (broken true)
        if ← Number.compared apart' (· == Ordering.lt) number bound then
          return some (broken false)
        else return none)
        = .ok (some found)
      → broken exclusive = found := by
  unfold Number.compared
  cases number.order? bound with
  | none =>
      cases number.isComplex || bound.isComplex <;> cases number.isDecimal || bound.isDecimal <;>
        cases exclusive <;> simp [pure, Except.pure]
  | some order => cases exclusive <;> cases order <;> simp [pure, Except.pure]

theorem enumerationComplaint_eq_some {complaint : Complaint}
    (found : leaf.enumerationComplaint? value = .ok (some complaint))
    : ∃ members, leaf.enumeration = some members ∧ complaint = .notAmong value members := by
  unfold enumerationComplaint? at found
  cases set : leaf.enumeration with
  | none => simp [set] at found
  | some members =>
      rw [set] at found
      exact ⟨members, rfl, noneIf_eq_some found⟩

/-- Only a pattern that has been read is complained about: what is no pattern stops the search. -/
theorem patternComplaint_eq_some {text : String} {complaint : Complaint}
    (found : leaf.patternComplaint? value text = .ok (some complaint))
    : ∃ labelled,
        leaf.pattern = some (.proper labelled)
        ∧ complaint = .noMatch value labelled.label.display := by
  unfold patternComplaint? at found
  cases set : leaf.pattern with
  | none => simp [set] at found
  | some slot =>
      rw [set] at found
      cases slot with
      | stray other => cases found
      | proper labelled => exact ⟨labelled, rfl, noneIf_eq_some found⟩

/-- Only a format by name is complained about: what is no name is passed by everything. -/
theorem formatComplaint_eq_some {complaint : Complaint}
    (found : leaf.formatComplaint? formats value = .ok (some complaint))
    : ∃ label,
        leaf.format = some (.proper label) ∧ complaint = .notInFormat value label.display := by
  unfold formatComplaint? at found
  cases set : leaf.format with
  | none => simp [set] at found
  | some slot =>
      rw [set] at found
      cases slot with
      | stray other => cases found
      | proper label => exact ⟨label, rfl, noneIf_eq_some found⟩

theorem minimumComplaint_eq_some {number : Number} {complaint : Complaint}
    (found : leaf.minimumComplaint? value number = .ok (some complaint))
    : ∃ bound,
        leaf.minimum = some bound ∧ complaint = .below value bound leaf.exclusiveMinimum := by
  unfold minimumComplaint? at found
  cases set : leaf.minimum with
  | none => simp [set] at found
  | some bound =>
      rw [set] at found
      exact ⟨bound, rfl, (bound_eq_some found).symm⟩

theorem maximumComplaint_eq_some {number : Number} {complaint : Complaint}
    (found : leaf.maximumComplaint? value number = .ok (some complaint))
    : ∃ bound,
        leaf.maximum = some bound ∧ complaint = .above value bound leaf.exclusiveMaximum := by
  unfold maximumComplaint? at found
  cases set : leaf.maximum with
  | none => simp [set] at found
  | some bound =>
      rw [set] at found
      exact ⟨bound, rfl, (bound_eq_some found).symm⟩

/-- The message about a minimum ends with the bound, and behind it with a mark if the bound is
exclusive. -/
theorem names_below {bound : Number} (set : leaf.minimum = some bound)
    : leaf.Names value .minimum
        (Complaint.below value bound leaf.exclusiveMinimum).message := by
  have message (exclusive : Bool)
      : (Complaint.below value bound exclusive).message
        = "Value " ++ value.rendered
          ++ (if exclusive then " must be greater than minimum " else " is less than minimum ")
          ++ bound.rendered ++ if exclusive then " (exclusiveMinimum)" else "" := by
    cases exclusive with
    | true => rfl
    | false => exact String.append_empty.symm
  rw [message]
  exact .minimum set ⟨"Value ", _, rfl, trivial⟩

/-- The message about a maximum ends with the bound, and behind it with a mark if the bound is
exclusive. -/
theorem names_above {bound : Number} (set : leaf.maximum = some bound)
    : leaf.Names value .maximum
        (Complaint.above value bound leaf.exclusiveMaximum).message := by
  have message (exclusive : Bool)
      : (Complaint.above value bound exclusive).message
        = "Value " ++ value.rendered
          ++ (if exclusive then " must be less than maximum " else " is greater than maximum ")
          ++ bound.rendered ++ if exclusive then " (exclusiveMaximum)" else "" := by
    cases exclusive with
    | true => rfl
    | false => exact String.append_empty.symm
  rw [message]
  exact .maximum set ⟨"Value ", _, rfl, trivial⟩

theorem text_of_textOf? {text : String} (reads : leaf.textOf? value = some text)
    : value.text? = some text := by
  unfold textOf? at reads
  split at reads
  · exact reads
  · cases reads

/-- Whatever a single check finds, its message names what failed. -/
theorem names_of_found {check : LeafCheck} {complaint : Complaint} (labelled : leaf.Labelled)
    (found : leaf.complaintOf? formats check value = .ok (some complaint))
    : leaf.Names value check complaint.message := by
  cases check with
  | type =>
      obtain rfl := noneIf_eq_some found
      exact .type
  | enumeration =>
      obtain ⟨members, set, rfl⟩ := enumerationComplaint_eq_some found
      exact .enumeration set (Complaint.notAmong value members).shows_arguments
  | pattern =>
      obtain ⟨text, -, found⟩ := whereRead_eq_some_iff.mp found
      obtain ⟨pattern, set, rfl⟩ := patternComplaint_eq_some found
      exact .pattern set (labelled pattern set)
        (Complaint.noMatch value pattern.label.display).shows_arguments
  | maxLength =>
      obtain ⟨text, reads, found⟩ := whereRead_eq_some_iff.mp found
      obtain ⟨limit, set, rfl⟩ := Option.map_eq_some_iff.mp (Except.ok.inj found)
      exact .maxLength (text_of_textOf? reads) (Option.filter_eq_some_iff.mp set).1
        (Complaint.tooLong value text.length limit).shows_arguments
  | minLength =>
      obtain ⟨text, reads, found⟩ := whereRead_eq_some_iff.mp found
      obtain ⟨limit, set, rfl⟩ := Option.map_eq_some_iff.mp (Except.ok.inj found)
      exact .minLength (text_of_textOf? reads) (Option.filter_eq_some_iff.mp set).1
        (Complaint.tooShort value text.length limit).shows_arguments
  | minimum =>
      obtain ⟨number, -, found⟩ := whereRead_eq_some_iff.mp found
      obtain ⟨bound, set, rfl⟩ := minimumComplaint_eq_some found
      exact names_below set
  | maximum =>
      obtain ⟨number, -, found⟩ := whereRead_eq_some_iff.mp found
      obtain ⟨bound, set, rfl⟩ := maximumComplaint_eq_some found
      exact names_above set
  | format =>
      obtain ⟨label, set, rfl⟩ := formatComplaint_eq_some found
      exact .format set (Complaint.notInFormat value label.display).shows_arguments

/-- A leaf that has an answer about a value finds nothing, and the value meets every check, or finds
one violation, at the value itself. It is the violation of the first check that fails, in the order
of the checks, and its message names what failed: the value, and the members, the source, the length
and its limit, the bound or the format, as they are. The message is a template of fixed words with
these texts filled in, and no percent sign of theirs is read as a directive. -/
theorem check_reports_first_failure {formats : FormatRegistry} {leaf : Leaf} {value : Value}
    {violations : List Violation} (made : leaf.Made)
    (returned : leaf.check formats value = .ok violations)
    : (violations = [] ∧ ∀ check, leaf.Meets formats value check)
      ∨ ∃ (check : LeafCheck) (complaint : Complaint),
          violations = [⟨"", complaint.message⟩]
          ∧ leaf.FailsFirst formats value check
          ∧ leaf.Names value check complaint.message
          ∧ (complaint.Writable
            → messageText (Part.template complaint.parts) (Part.arguments complaint.parts)
              = .ok complaint.message) := by
  obtain ⟨outcome, searched, returned⟩ := bind_eq_ok_iff.mp returned
  rcases complaint_of_failsFirst searched with ⟨rfl, meets⟩ | ⟨check, complaint, rfl, first, found⟩
  · exact Or.inl ⟨(pure_eq_ok_iff.mp returned).symm, meets⟩
  · obtain rfl := pure_eq_ok_iff.mp returned
    exact Or.inr ⟨check, complaint, rfl, first, names_of_found made.labelled found,
      complaint.messageText_eq⟩

/-- A leaf of two texts, with a percent sign, quotes and a line break in them, reports a third text
as it is. -/
theorem marked_texts_reported
    : ∃ leaf violations,
        Made leaf
        ∧ leaf.check .builtIn (.string "%d\n") = .ok violations
        ∧ ¬leaf.Meets .builtIn (.string "%d\n") .enumeration
        ∧ ((violations = [] ∧ ∀ check, leaf.Meets .builtIn (.string "%d\n") check)
          ∨ ∃ (check : LeafCheck) (complaint : Complaint),
              violations = [⟨"", complaint.message⟩]
              ∧ leaf.FailsFirst .builtIn (.string "%d\n") check
              ∧ leaf.Names (.string "%d\n") check complaint.message
              ∧ (complaint.Writable
                → messageText (Part.template complaint.parts) (Part.arguments complaint.parts)
                  = .ok complaint.message)) := by
  have typed : Made { type := .string } :=
    @Made.assigned .builtIn _ .type (.string "string") _ .initial rfl
  have made : Made
      { type := .string, enumeration := some [.string "50%", .string "say \"%s\"\n"] } :=
    @Made.assigned .builtIn _ .enumeration (.list [.string "50%", .string "say \"%s\"\n"]) _
      typed rfl
  refine ⟨_, _, made, rfl, ?_, check_reports_first_failure made rfl⟩
  intro meets
  obtain ⟨member, listed, equal⟩ := meets _ rfl
  simp only [List.mem_cons, List.not_mem_nil, or_false] at listed
  rcases listed with rfl | rfl
  · cases equal
  · cases equal

end Leaf

end Assay
