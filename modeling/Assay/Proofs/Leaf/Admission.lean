import Assay.Proofs.Leaf.Legality

/-! What becomes of any value whatever that is assigned to a field of a leaf: it is refused, or kept
as something of the kind that the field is documented to hold. A few assignments escape this, and
they are told one by one.
-/

namespace Assay

-----------------------------------------------------------------------------------------
-- Calls that do as documented
-----------------------------------------------------------------------------------------

/-- A call does as documented: it is refused, or returns what keeps what it has been given. -/
def Honours {α : Type} (kept : α → Prop) (outcome : Except Failure α)
    : Prop :=
  (∃ refusal, outcome = .error (.refused refusal)) ∨ ∃ after, outcome = .ok after ∧ kept after

namespace Honours

variable {α β : Type} {kept : α → Prop}

theorem refused (refusal : Refusal)
    : Honours kept (.error (.refused refusal)) :=
  Or.inl ⟨refusal, rfl⟩

/-- A call that returns does as documented if it keeps what it has been given. -/
@[simp]
theorem ok_iff {after : α}
    : Honours kept (.ok after) ↔ kept after := by
  simp [Honours]

/-- A call that stops does not do as documented. -/
@[simp]
theorem not_stopped {fault : Fault}
    : ¬Honours kept (.error (.stopped fault)) := by
  simp [Honours]

/-- What never stops does as documented if it returns nothing but what is kept. -/
theorem of_neverStops {outcome : Except Failure α} (goes : Leaf.NeverStops outcome)
    (keeps : ∀ after, outcome = .ok after → kept after)
    : Honours kept outcome := by
  cases outcome with
  | ok after => exact ok_iff.mpr (keeps after rfl)
  | error failure =>
      cases failure with
      | refused refusal => exact .refused refusal
      | stopped fault => exact absurd rfl (goes fault)

/-- What is only put into another form keeps what the form keeps. -/
theorem map_iff {kept : β → Prop} {step : Except Failure α} {form : α → β}
    : Honours kept (step >>= fun answer => pure (form answer))
      ↔ Honours (fun answer => kept (form answer)) step := by
  cases step with
  | ok answer => simp [Honours, pure, Except.pure]
  | error failure => simp [Honours]

end Honours

-----------------------------------------------------------------------------------------
-- What leaves keep, and what escapes
-----------------------------------------------------------------------------------------

theorem Value.isNull_of_ne_null {value : Value} (given : value ≠ .null)
    : value.isNull = false := by
  cases value with
  | null => exact absurd rfl given
  | _ => rfl

/-- A value that a leaf is given for its pattern or its format is not of the kind that the field is
documented to be assigned, or one that it is given for a bound is a number without an order. -/
def LeafField.Strays (field : LeafField) (value : Value)
    : Prop :=
  (field = .pattern ∨ field = .format) ∧ ¬field.Documents value
  ∨ (field = .minimum ∨ field = .maximum) ∧ ∃ bound, value = .number bound ∧ bound.isComplex

namespace Leaf

/-- A pattern that a value gives: one that its text is compiled to, or the value itself. -/
inductive GivesPattern : Value → LabelledPattern → Prop
  | text {value label pattern} (text : Label.ofValue? value = some label)
    (compiled : Pattern.compile label.word = .ok pattern)
    : GivesPattern value ⟨label, pattern⟩
  | compiled {pattern}
    : GivesPattern (.foreign (.pattern pattern)) ⟨.text pattern.source, pattern⟩

/-- A leaf that is given a value for a field keeps it as something of the kind that the field is
documented to hold: nothing, a pattern, a text, a natural number, a number that has an order, a
truth value, or the values that a collection holds. Nothing else changes. -/
inductive Keeps (leaf : Leaf) : LeafField → Value → Leaf → Prop
  | type {value type} (named : value.text? = some (SimpleType.word type))
    : leaf.Keeps .type value { leaf with type }
  | noPattern : leaf.Keeps .pattern .null { leaf with pattern := none }
  | pattern {value labelled} (gives : GivesPattern value labelled)
    : leaf.Keeps .pattern value { leaf with pattern := some (.proper labelled) }
  | noFormat : leaf.Keeps .format .null { leaf with format := none }
  | format {value label} (text : Label.ofValue? value = some label)
    : leaf.Keeps .format value { leaf with format := some (.proper label) }
  | noMinLength : leaf.Keeps .minLength .null { leaf with minLength := none }
  | minLength {limit : Nat}
    : leaf.Keeps .minLength (.int limit) { leaf with minLength := some limit }
  | noMaxLength : leaf.Keeps .maxLength .null { leaf with maxLength := none }
  | maxLength {limit : Nat}
    : leaf.Keeps .maxLength (.int limit) { leaf with maxLength := some limit }
  | noMinimum : leaf.Keeps .minimum .null { leaf with minimum := none }
  | minimum {bound} (real : ¬bound.isComplex)
    : leaf.Keeps .minimum (.number bound) { leaf with minimum := some bound }
  | noMaximum : leaf.Keeps .maximum .null { leaf with maximum := none }
  | maximum {bound} (real : ¬bound.isComplex)
    : leaf.Keeps .maximum (.number bound) { leaf with maximum := some bound }
  | exclusiveMinimum {value flag} (told : value.truth = .ok flag)
    : leaf.Keeps .exclusiveMinimum value { leaf with exclusiveMinimum := flag }
  | exclusiveMaximum {value flag} (told : value.truth = .ok flag)
    : leaf.Keeps .exclusiveMaximum value { leaf with exclusiveMaximum := flag }
  | noEnumeration : leaf.Keeps .enumeration .null { leaf with enumeration := none }
  | enumeration {value members} (held : value.elements = .ok members)
    : leaf.Keeps .enumeration value { leaf with enumeration := some members }

/-- An assignment to a leaf that is neither refused nor kept as something of the documented kind. -/
inductive Escapes (leaf : Leaf) : LeafField → Value → Prop
  /-- What is neither a text nor a pattern is kept as the pattern of texts. -/
  | strayPattern {value} (texts : leaf.type = .string)
    (other : ¬LeafField.pattern.Documents value)
    : leaf.Escapes .pattern value
  /-- A text stops the reader of patterns, for another reason than a defect of its own. -/
  | unreadable {value label fault} (texts : leaf.type = .string)
    (text : Label.ofValue? value = some label)
    (stops : Pattern.compile label.word = .error (.fault fault))
    : leaf.Escapes .pattern value
  /-- What is no text is kept as a format, or stops the search for one. -/
  | strayFormat {value} (other : ¬LeafField.format.Documents value)
    : leaf.Escapes .format value
  /-- A number without an order is kept as a bound. -/
  | complexBound {field bound} (own : field = .minimum ∨ field = .maximum)
    (numbers : leaf.type.isNumeric) (complex : bound.isComplex)
    : leaf.Escapes field (.number bound)
  /-- What is given for a flag fails when it is asked for its truth. -/
  | untold {field value fault} (own : field = .exclusiveMinimum ∨ field = .exclusiveMaximum)
    (numbers : leaf.type.isNumeric) (stops : value.truth = .error fault)
    : leaf.Escapes field value
  /-- What is to be enumerated holds no values at all, or fails to give all of them. -/
  | notIterable {value fault} (given : value ≠ .null) (stops : value.elements = .error fault)
    : leaf.Escapes .enumeration value

variable {formats : FormatRegistry} {leaf after : Leaf} {value : Value}

-----------------------------------------------------------------------------------------
-- Patterns
-----------------------------------------------------------------------------------------

theorem keeps_of_setPattern (documented : LeafField.pattern.Documents value)
    (assigned : leaf.setPattern value = .ok after)
    : leaf.Keeps .pattern value after := by
  rcases documented with rfl | ⟨label, text⟩ | ⟨pattern, rfl⟩
  · obtain rfl := setPattern_null_eq_ok_iff.mp assigned
    exact .noPattern
  · obtain ⟨-, pattern, compiled, rfl⟩ := (setPattern_label_eq_ok_iff text).mp assigned
    exact .pattern (.text text compiled)
  · obtain ⟨-, rfl⟩ := setPattern_compiled_eq_ok_iff.mp assigned
    exact .pattern .compiled

/-- A leaf of another type refuses whatever it is given for a pattern. -/
theorem setPattern_refused (other : leaf.type ≠ .string) (given : value.isNull = false)
    : leaf.setPattern value = .error (.refused (.textsOnly .pattern leaf.type)) := by
  have refused : leaf.textsOnly .pattern = .error (.refused (.textsOnly .pattern leaf.type)) :=
    if_neg other
  simp only [setPattern, given, refused, Bool.false_eq_true, if_false, error_bind]

/-- A leaf of texts keeps whatever else it is given for a pattern as it is. -/
theorem setPattern_of_stray (texts : leaf.type = .string)
    (other : ¬LeafField.pattern.Documents value)
    : leaf.setPattern value = .ok { leaf with pattern := some (.stray value) } := by
  have given : value.isNull = false := Value.isNull_of_ne_null fun null => other (Or.inl null)
  have allowed : leaf.textsOnly .pattern = .ok () := textsOnly_eq_ok_iff.mpr texts
  simp only [setPattern, given, allowed, Bool.false_eq_true, if_false, ok_bind]
  split
  · rename_i label text
    exact absurd (Or.inr (Or.inl ⟨label, text⟩)) other
  · exact absurd (Or.inr (Or.inr ⟨_, rfl⟩)) other
  · rfl

/-- A pattern is refused or kept unless what is given for it escapes. -/
theorem setPattern_honours_iff
    : Honours (leaf.Keeps .pattern value) (leaf.setPattern value)
      ↔ ¬leaf.Escapes .pattern value := by
  constructor
  · intro honours escapes
    cases escapes with
    | strayPattern texts other =>
        rw [setPattern_of_stray texts other, Honours.ok_iff] at honours
        cases honours
    | unreadable texts text stops =>
        rw [(setPattern_label_eq_stopped_iff text).mpr ⟨texts, stops⟩] at honours
        exact Honours.not_stopped honours
    | complexBound own | untold own => simp at own
  · intro free
    by_cases documented : LeafField.pattern.Documents value
    · by_cases texts : leaf.type = .string
      · refine .of_neverStops (fun fault stopped => ?_) fun after => keeps_of_setPattern documented
        obtain ⟨label, text, stops⟩ := setPattern_stopped documented stopped
        exact free (.unreadable texts text stops)
      · rcases documented with rfl | ⟨label, text⟩ | ⟨pattern, rfl⟩
        · exact Honours.ok_iff.mpr .noPattern
        · rw [setPattern_refused texts (Value.isNull_of_label text)]
          exact .refused _
        · rw [setPattern_refused texts rfl]
          exact .refused _
    · have other : leaf.type ≠ .string := fun texts => free (.strayPattern texts documented)
      rw [setPattern_refused other (Value.isNull_of_ne_null fun null => documented (Or.inl null))]
      exact .refused _

-----------------------------------------------------------------------------------------
-- Formats and enumerations
-----------------------------------------------------------------------------------------

/-- A leaf keeps whatever is no text and can serve as a name as its format, and stops at anything
else. -/
theorem setFormat_of_stray (other : ¬LeafField.format.Documents value)
    : leaf.setFormat formats value = .ok { leaf with format := some (.stray value) }
      ∨ ∃ fault, leaf.setFormat formats value = .error (.stopped fault) := by
  have given : value.isNull = false := Value.isNull_of_ne_null fun null => other (Or.inl null)
  have unlabelled : Label.ofValue? value = none :=
    Option.eq_none_iff_forall_ne_some.mpr fun label text => other (Or.inr ⟨label, text⟩)
  simp only [setFormat, given, unlabelled, Bool.false_eq_true, if_false]
  cases value.hashFault? with
  | none => exact Or.inl rfl
  | some fault => exact Or.inr ⟨fault, rfl⟩

theorem setFormat_honours_iff
    : Honours (leaf.Keeps .format value) (leaf.setFormat formats value)
      ↔ ¬leaf.Escapes .format value := by
  constructor
  · intro honours escapes
    cases escapes with
    | strayFormat other =>
        rcases @setFormat_of_stray formats leaf value other with stored | ⟨fault, stopped⟩
        · rw [stored, Honours.ok_iff] at honours
          cases honours
        · rw [stopped] at honours
          exact Honours.not_stopped honours
    | complexBound own | untold own => simp at own
  · intro free
    have documented : LeafField.format.Documents value := by
      by_contra other
      exact free (.strayFormat other)
    refine .of_neverStops (setFormat_neverStops documented) fun after assigned => ?_
    rcases documented with rfl | ⟨label, text⟩
    · obtain rfl := setFormat_null_eq_ok_iff.mp assigned
      exact .noFormat
    · obtain ⟨-, rfl⟩ := (setFormat_label_eq_ok_iff text).mp assigned
      exact .format text

theorem setEnumeration_stopped {fault : Fault} (given : value ≠ .null)
    (stops : value.elements = .error fault)
    : leaf.setEnumeration value = .error (.stopped fault) := by
  simp only [setEnumeration, Value.isNull_of_ne_null given, stops, Bool.false_eq_true, if_false]

theorem setEnumeration_honours_iff
    : Honours (leaf.Keeps .enumeration value) (leaf.setEnumeration value)
      ↔ ¬leaf.Escapes .enumeration value := by
  constructor
  · intro honours escapes
    cases escapes with
    | notIterable given stops =>
        rw [setEnumeration_stopped given stops] at honours
        exact Honours.not_stopped honours
    | complexBound own | untold own => simp at own
  · intro free
    by_cases null : value = .null
    · subst null
      exact Honours.ok_iff.mpr .noEnumeration
    · simp only [setEnumeration, Value.isNull_of_ne_null null, Bool.false_eq_true, if_false]
      split
      · rename_i stops
        exact absurd (.notIterable null stops) free
      · exact .refused _
      · rename_i held
        split
        · exact .refused _
        · exact Honours.ok_iff.mpr (.enumeration held)

-----------------------------------------------------------------------------------------
-- All fields
-----------------------------------------------------------------------------------------

/-- A bound is refused or kept unless it is a number without an order. -/
theorem bound_honours_iff {field : LeafField} {keyword : Keyword} {put : Option Number → Leaf}
    (own : field = .minimum ∨ field = .maximum)
    (keeps
      : ∀ read,
          leaf.bound? keyword value = .ok read
          → (leaf.Keeps field value (put read)
            ↔ ∀ bound, value = .number bound → ¬bound.isComplex))
    : Honours (leaf.Keeps field value) (do return put (← leaf.bound? keyword value))
      ↔ ¬leaf.Escapes field value := by
  constructor
  · intro honours escapes
    obtain ⟨bound, rfl, numbers, complex⟩
        : ∃ bound, value = .number bound ∧ leaf.type.isNumeric ∧ bound.isComplex := by
      cases escapes with
      | complexBound _ numbers complex => exact ⟨_, rfl, numbers, complex⟩
      | untold flag => rcases own with rfl | rfl <;> simp at flag
      | _ => simp at own
    have read : leaf.bound? keyword (.number bound) = .ok (some bound) :=
      bound_eq_ok_iff.mpr (Or.inr ⟨bound, numbers, rfl, rfl⟩)
    rw [read, ok_bind] at honours
    exact (keeps _ read).mp (Honours.ok_iff.mp honours) bound rfl complex
  · intro free
    refine Honours.map_iff.mpr (.of_neverStops (bound_neverStops _) fun read given => ?_)
    refine (keeps read given).mpr fun bound same complex => ?_
    subst same
    rcases bound_eq_ok_iff.mp given with ⟨null, -⟩ | ⟨limit, numbers, -, -⟩
    · cases null
    · exact free (.complexBound own numbers complex)

/-- A flag is refused or kept unless what is given for it fails when it is asked for its truth. -/
theorem flag_honours_iff {field : LeafField} {keyword : Keyword} {put : Bool → Leaf}
    (own : field = .exclusiveMinimum ∨ field = .exclusiveMaximum)
    (keeps : ∀ flag, value.truth = .ok flag → leaf.Keeps field value (put flag))
    : Honours (leaf.Keeps field value)
        (do
          leaf.numbersOnly keyword
          return put (← flagOf value))
      ↔ ¬leaf.Escapes field value := by
  by_cases numbers : leaf.type.isNumeric
  · rw [numbersOnly, if_pos numbers, ok_bind]
    cases told : value.truth with
    | ok flag =>
        rw [flagOf_eq_ok_iff.mpr told, ok_bind]
        refine iff_of_true (Honours.ok_iff.mpr (keeps flag told)) fun escapes => ?_
        cases escapes with
        | untold _ _ stops => cases told.symm.trans stops
        | complexBound bound => rcases own with rfl | rfl <;> simp at bound
        | _ => simp at own
    | error fault =>
        have stopped : flagOf value = .error (.stopped fault) := by
          rw [flagOf, told]
          rfl
        rw [stopped, error_bind]
        exact iff_of_false Honours.not_stopped fun free => free (.untold own numbers told)
  · rw [numbersOnly, if_neg numbers, error_bind]
    refine iff_of_true (.refused _) fun escapes => ?_
    cases escapes with
    | untold _ numeric => exact numbers numeric
    | complexBound _ numeric => exact numbers numeric
    | _ => simp at own

/-- What is assigned to a type or to a length never escapes. -/
theorem not_escapes_of_plain {field : LeafField}
    (plain : field = .type ∨ field = .minLength ∨ field = .maxLength)
    : ¬leaf.Escapes field value := by
  intro escapes
  cases escapes with
  | complexBound own | untold own => rcases own with rfl | rfl <;> simp at plain
  | _ => simp at plain

/-- Whatever is assigned to a field of a leaf is refused, or kept as something of the kind that the
field is documented to hold, exactly if it does not escape. -/
theorem assign_honours_iff {field : LeafField}
    : Honours (leaf.Keeps field value) (leaf.assign formats field value)
      ↔ ¬leaf.Escapes field value := by
  cases field with
  | pattern => exact setPattern_honours_iff
  | format => exact setFormat_honours_iff
  | enumeration => exact setEnumeration_honours_iff
  | type =>
      refine iff_of_true ?_ (not_escapes_of_plain (by simp))
      refine .of_neverStops setType_neverStops fun after assigned => ?_
      obtain ⟨type, named, -, rfl⟩ := setType_eq_ok_iff.mp assigned
      exact .type named
  | minLength | maxLength =>
      refine iff_of_true (Honours.map_iff.mpr ?_) (not_escapes_of_plain (by simp))
      refine .of_neverStops (length_neverStops _) fun length read => ?_
      rcases length_eq_ok_iff.mp read with ⟨rfl, rfl⟩ | ⟨limit, -, rfl, rfl⟩
      · constructor
      · constructor
  | minimum =>
      refine bound_honours_iff (Or.inl rfl) fun read given => ?_
      rcases bound_eq_ok_iff.mp given with ⟨rfl, rfl⟩ | ⟨limit, -, rfl, rfl⟩
      · exact iff_of_true .noMinimum nofun
      · refine ⟨fun keeps => ?_, fun real => .minimum (real limit rfl)⟩
        cases keeps with
        | minimum real => rintro _ ⟨⟩; exact real
  | maximum =>
      refine bound_honours_iff (Or.inr rfl) fun read given => ?_
      rcases bound_eq_ok_iff.mp given with ⟨rfl, rfl⟩ | ⟨limit, -, rfl, rfl⟩
      · exact iff_of_true .noMaximum nofun
      · refine ⟨fun keeps => ?_, fun real => .maximum (real limit rfl)⟩
        cases keeps with
        | maximum real => rintro _ ⟨⟩; exact real
  | exclusiveMinimum => exact flag_honours_iff (Or.inl rfl) fun flag told => .exclusiveMinimum told
  | exclusiveMaximum => exact flag_honours_iff (Or.inr rfl) fun flag told => .exclusiveMaximum told

/-- What a leaf holds is of the kind that its fields are documented to hold: it is proper, and its
bounds have an order. -/
structure Documented (leaf : Leaf) : Prop extends leaf.Proper where
  minimum : ∀ bound, leaf.minimum = some bound → ¬bound.isComplex
  maximum : ∀ bound, leaf.maximum = some bound → ¬bound.isComplex

/-- An assignment that escapes stops the setter, or what strays is kept. -/
theorem outcome_of_escapes {field : LeafField} (escapes : leaf.Escapes field value)
    : (∃ fault, leaf.assign formats field value = .error (.stopped fault))
      ∨ field.Strays value
        ∧ ∃ after, leaf.assign formats field value = .ok after ∧ ¬after.Documented := by
  cases escapes with
  | strayPattern texts other =>
      refine Or.inr ⟨Or.inl ⟨Or.inl rfl, other⟩, _, setPattern_of_stray texts other, ?_⟩
      exact fun documented => documented.pattern value rfl
  | unreadable texts text stops =>
      exact Or.inl ⟨_, (setPattern_label_eq_stopped_iff text).mpr ⟨texts, stops⟩⟩
  | strayFormat other =>
      rcases @setFormat_of_stray formats leaf value other with stored | stopped
      · refine Or.inr ⟨Or.inl ⟨Or.inr rfl, other⟩, _, stored, fun documented => ?_⟩
        exact documented.format value rfl
      · exact Or.inl stopped
  | @complexBound _ bound own numbers complex =>
      have read (keyword : Keyword) : leaf.bound? keyword (.number bound) = .ok (some bound) :=
        bound_eq_ok_iff.mpr (Or.inr ⟨bound, numbers, rfl, rfl⟩)
      refine Or.inr ⟨Or.inr ⟨own, bound, rfl, complex⟩, ?_⟩
      rcases own with rfl | rfl
      · refine ⟨_, bind_pure_eq_ok_iff.mpr ⟨_, read .minimum, rfl⟩, fun documented => ?_⟩
        exact documented.minimum bound rfl complex
      · refine ⟨_, bind_pure_eq_ok_iff.mpr ⟨_, read .maximum, rfl⟩, fun documented => ?_⟩
        exact documented.maximum bound rfl complex
  | @untold _ _ fault own numbers stops =>
      have stopped : flagOf value = .error (.stopped fault) := by
        rw [flagOf, stops]
        rfl
      have allowed (keyword : Keyword) : leaf.numbersOnly keyword = .ok () := if_pos numbers
      refine Or.inl ⟨fault, ?_⟩
      rcases own with rfl | rfl
      · simp only [assign, allowed, stopped, ok_bind, error_bind]
      · simp only [assign, allowed, stopped, ok_bind, error_bind]
  | notIterable given stops => exact Or.inl ⟨_, setEnumeration_stopped given stops⟩

-----------------------------------------------------------------------------------------
-- Leaves that hold what is documented
-----------------------------------------------------------------------------------------

theorem documented_initial
    : Documented {} :=
  ⟨⟨nofun, nofun⟩, nofun, nofun⟩

/-- A leaf that keeps what is documented goes on holding such things. -/
theorem Keeps.documented {field : LeafField} (keeps : leaf.Keeps field value after)
    (documented : leaf.Documented)
    : after.Documented := by
  obtain ⟨⟨pattern, format⟩, minimum, maximum⟩ := documented
  cases keeps with
  | pattern | noPattern => exact ⟨⟨nofun, format⟩, minimum, maximum⟩
  | format | noFormat => exact ⟨⟨pattern, nofun⟩, minimum, maximum⟩
  | minimum real =>
      exact ⟨⟨pattern, format⟩, fun bound held => Option.some.inj held ▸ real, maximum⟩
  | maximum real =>
      exact ⟨⟨pattern, format⟩, minimum, fun bound held => Option.some.inj held ▸ real⟩
  | noMinimum => exact ⟨⟨pattern, format⟩, nofun, maximum⟩
  | noMaximum => exact ⟨⟨pattern, format⟩, minimum, nofun⟩
  | _ => exact ⟨⟨pattern, format⟩, minimum, maximum⟩

/-- A leaf goes on holding what is documented whatever is assigned to it, if its pattern, its format
and its bounds are not given what strays. -/
theorem documented_of_assign {field : LeafField} (documented : leaf.Documented)
    (plain : ¬field.Strays value) (assigned : leaf.assign formats field value = .ok after)
    : after.Documented := by
  by_cases escapes : leaf.Escapes field value
  · rcases @outcome_of_escapes formats leaf value field escapes with ⟨fault, stopped⟩ | ⟨strays, -⟩
    · nomatch assigned.symm.trans stopped
    · exact absurd strays plain
  · have honours := (@assign_honours_iff formats leaf value field).mpr escapes
    rw [assigned, Honours.ok_iff] at honours
    exact honours.documented documented

theorem documented_of_assignAll {fields : List (LeafField × Value)}
    (plain : ∀ entry ∈ fields, ¬entry.1.Strays entry.2) (documented : leaf.Documented)
    (assigned : leaf.assignAll formats fields = .ok after)
    : after.Documented := by
  induction fields generalizing leaf with
  | nil =>
      obtain rfl := Except.ok.inj assigned
      exact documented
  | cons entry rest ih =>
      obtain ⟨here, later⟩ := List.forall_mem_cons.mp plain
      obtain ⟨next, first, assigned⟩ := bind_eq_ok_iff.mp assigned
      exact ih later (documented_of_assign documented here first) assigned

/-- A leaf that is made of nothing that strays holds what is documented. -/
theorem documented_of_ofFields {fields : List (LeafField × Value)}
    (plain : ∀ entry ∈ fields, ¬entry.1.Strays entry.2)
    (made : ofFields formats fields = .ok leaf)
    : leaf.Documented := by
  refine documented_of_assignAll (fun entry given => ?_) documented_initial
    (assignGiven_eq_ok_iff.mp made)
  exact plain entry (mem_of_mem_givenOf given)

end Leaf

end Assay
