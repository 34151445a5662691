import Assay.Schema.Leaf
import Assay.Proofs.Outcome

/-! What it means for a value to conform to a leaf, and that the first complaint of a leaf decides
it: the ordered checks stop at the first failure, but find something exactly if one of them fails.
-/

namespace Assay

-----------------------------------------------------------------------------------------
-- Types and numbers
-----------------------------------------------------------------------------------------

/-- A value is of a simple type: truth values and complex numbers are no numbers, a whole number of
another class than the integers is no integer, and everything is of the type of everything. -/
inductive Value.HasType : Value → SimpleType → Prop
  | any {value : Value} : value.HasType .any
  | null : Value.null.HasType .null
  | boolean {value} : (Value.bool value).HasType .boolean
  | number {value} (real : ¬ value.isComplex) : (Value.number value).HasType .number
  | integer {value} : (Value.number (.int value)).HasType .integer
  | string {value : Value} {text} (reads : value.text? = some text) : value.HasType .string

/-- A number does not stand below another one, nor level with it where that is excluded. A mark for
no number stands nowhere. -/
def Number.NotBelow (exclusive : Bool) (number bound : Number)
    : Prop :=
  number.order? bound ≠ some .lt ∧ (exclusive → number.order? bound ≠ some .eq)

/-- A type takes the kind of a value exactly if the value is of the type. -/
theorem SimpleType.takes_iff_hasType {value : Value} {kind : Kind} (known : value.kind = .ok kind)
    (type : SimpleType)
    : type.takes kind ↔ value.HasType type := by
  constructor
  · intro taken
    cases value with
    | null | bool =>
        obtain rfl := Except.ok.inj known
        cases type <;> first | exact absurd taken (by decide) | constructor
    | number number =>
        cases number with
        | complex real imaginary => nomatch known
        | int | float | decimal =>
            obtain rfl := Except.ok.inj known
            cases type <;>
              first | exact absurd taken (by decide) | exact .number nofun | constructor
    | string text =>
        obtain rfl := Except.ok.inj known
        cases type <;> first | exact absurd taken (by decide) | exact .any | exact .string rfl
    | array | object =>
        obtain rfl := Except.ok.inj known
        cases type <;> first | exact absurd taken (by decide) | exact .any
    | foreign thing =>
        cases thing with
        | policy policy =>
            obtain rfl := Except.ok.inj known
            cases type <;> first | exact absurd taken (by decide) | exact .any | exact .string rfl
        | _ => nomatch known
  · intro typed
    cases typed with
    | any => cases kind <;> rfl
    | null | boolean | integer =>
        obtain rfl := Except.ok.inj known
        rfl
    | @number number real =>
        cases number with
        | complex => exact absurd rfl real
        | _ => cases known; rfl
    | string reads =>
        unfold Value.text? at reads
        split at reads
        · cases known
          rfl
        · cases known
          rfl
        · nomatch reads

/-- A type that has an answer about a value accepts exactly the values of the type. -/
theorem SimpleType.accepts_settles (type : SimpleType) (value : Value)
    : Settles (type.accepts value) true (value.HasType type) := by
  unfold accepts
  split
  · rename_i any
    exact .ok (by simp [any, Value.HasType.any])
  · intro accepted returned
    simp only [bind_eq_ok_iff, pure_eq_ok_iff] at returned
    obtain ⟨kind, known, rfl⟩ := returned
    exact takes_iff_hasType known type

/-- The comparisons with a bound find something exactly if the number is below it. -/
theorem Number.bound_settles {α : Type} (apart apart' : Fault) (exclusive : Bool)
    (number bound : Number) (excluded outside : α)
    : Settles
        (do
          let level ←
            if exclusive then compared apart (· != .gt) number bound else pure false
          if level then return some excluded
          if ← compared apart' (· == .lt) number bound then return some outside else return none)
        none (number.NotBelow exclusive bound) := by
  unfold compared NotBelow
  cases number.order? bound with
  | none =>
      cases number.isComplex || bound.isComplex <;> cases number.isDecimal || bound.isDecimal <;>
        cases exclusive <;> simp [Settles, pure, Except.pure]
  | some order => cases exclusive <;> cases order <;> simp [Settles, pure, Except.pure]

namespace Leaf

/-- A value conforms to a leaf: it is of the type and is or equals a member enumerated, a text has a
match of the pattern and a length within the bounds, a number stands within the bounds, and the
format, if it is registered, holds. -/
structure Conforms (formats : FormatRegistry) (leaf : Leaf) (value : Value) : Prop where
  type : value.HasType leaf.type
  enumeration
    : ∀ members,
        leaf.enumeration = some members → ∃ member ∈ members, value.isOrEquals member = .ok true
  pattern
    : ∀ labelled text,
        leaf.type = .string
        → leaf.pattern = some (.proper labelled)
        → value.text? = some text
        → labelled.pattern.occursIn text = .ok true
  maxLength
    : ∀ limit text,
        leaf.type = .string
        → leaf.maxLength = some limit
        → value.text? = some text
        → text.length ≤ limit
  minLength
    : ∀ limit text,
        leaf.type = .string
        → leaf.minLength = some limit
        → value.text? = some text
        → limit ≤ text.length
  minimum
    : ∀ bound number,
        leaf.type.isNumeric
        → leaf.minimum = some bound
        → value = .number number
        → number.NotBelow leaf.exclusiveMinimum bound
  maximum
    : ∀ bound number,
        leaf.type.isNumeric
        → leaf.maximum = some bound
        → value = .number number
        → bound.NotBelow leaf.exclusiveMaximum number
  format
    : ∀ label,
        leaf.format = some (.proper label)
        → ∀ format, formats.get? label.word = some format → format.check value = .ok true

end Leaf

-----------------------------------------------------------------------------------------
-- Each check of a leaf settles its part
-----------------------------------------------------------------------------------------

/-- A search among values that has an answer says whether the value is or equals one of them. -/
theorem Value.isAmong_settles (value : Value) (members : List Value)
    : Settles (value.isAmong members) true
        (∃ member ∈ members, value.isOrEquals member = .ok true) := by
  induction members with
  | nil => exact .ok (by simp)
  | cons member rest ih =>
      intro found returned
      simp only [isAmong, bind_eq_ok_iff] at returned
      obtain ⟨equal, compared, returned⟩ := returned
      cases equal with
      | true =>
          obtain rfl := pure_eq_ok_iff.mp returned
          simp [compared]
      | false => simpa [compared] using ih found returned

/-- A mark for no number is found where it is the member itself, and nowhere else. -/
example
    : (Value.number (.float (.nan 1))).isAmong
          [.number (.float (.nan 0)), .number (.float (.nan 1))]
        = .ok true
      ∧ (Value.number (.float (.nan 2))).isAmong [.number (.float (.nan 1))] = .ok false :=
  ⟨rfl, rfl⟩

theorem Slot.passes_settles (formats : FormatRegistry) (value : Value) (slot : Slot Label)
    : Settles (slot.passes formats value) true
        (∀ label,
          slot = .proper label
          → ∀ format, formats.get? label.word = some format → format.check value = .ok true) := by
  cases slot with
  | stray other => exact .ok (by simp)
  | proper label =>
      cases found : formats.get? label.word with
      | none =>
          simp only [passes, FormatRegistry.check, found]
          exact .ok (by simp [found])
      | some format =>
          intro passed returned
          simp only [passes, FormatRegistry.check, found] at returned
          simp [found, returned]

namespace Leaf

variable (formats : FormatRegistry) (leaf : Leaf) (value : Value)

theorem typeComplaint_settles
    : Settles (leaf.typeComplaint? value) none (value.HasType leaf.type) :=
  .noneIf (SimpleType.accepts_settles leaf.type value)

theorem enumerationComplaint_settles
    : Settles (leaf.enumerationComplaint? value) none
        (∀ members,
          leaf.enumeration = some members
          → ∃ member ∈ members, value.isOrEquals member = .ok true) := by
  unfold enumerationComplaint?
  cases leaf.enumeration with
  | none => exact .ok (by simp)
  | some members =>
      exact (Settles.noneIf (value.isAmong_settles members)).congr (by simp)

theorem patternComplaint_settles (text : String)
    : Settles (leaf.patternComplaint? value text) none
        (∀ labelled,
          leaf.pattern = some (.proper labelled) → labelled.pattern.occursIn text = .ok true) := by
  unfold patternComplaint?
  cases leaf.pattern with
  | none => exact .ok (by simp)
  | some slot =>
      cases slot with
      | stray other => exact .error _
      | proper labelled =>
          dsimp only
          have search : Settles (labelled.pattern.occursIn text) true
              (labelled.pattern.occursIn text = .ok true) := by
            intro found returned
            simp [returned]
          exact (Settles.noneIf search).congr (by simp)

/-- The length of a text is complained about exactly if it is out of bounds. -/
theorem lengthComplaint_eq_none_iff (text : String)
    : leaf.lengthComplaint? value text = none
      ↔ (∀ limit, leaf.maxLength = some limit → text.length ≤ limit)
        ∧ (∀ limit, leaf.minLength = some limit → limit ≤ text.length) := by
  have above : leaf.maxLength.filter (· < text.length) = none
      ↔ ∀ limit, leaf.maxLength = some limit → text.length ≤ limit := by
    simp [Option.filter_eq_none_iff]
  have below : leaf.minLength.filter (text.length < ·) = none
      ↔ ∀ limit, leaf.minLength = some limit → limit ≤ text.length := by
    simp [Option.filter_eq_none_iff]
  rw [← above, ← below, lengthComplaint?]
  cases leaf.maxLength.filter (· < text.length) <;>
    cases leaf.minLength.filter (text.length < ·) <;> simp

theorem formatComplaint_settles
    : Settles (leaf.formatComplaint? formats value) none
        (∀ label,
          leaf.format = some (.proper label)
          → ∀ format, formats.get? label.word = some format → format.check value = .ok true) := by
  unfold formatComplaint?
  cases leaf.format with
  | none => exact .ok (by simp)
  | some slot =>
      exact (Settles.noneIf (slot.passes_settles formats value)).congr (by simp)

theorem textComplaint_settles
    : Settles (leaf.textComplaint? value) none
        (∀ text,
          leaf.type = .string
          → value.text? = some text
          → (∀ labelled,
              leaf.pattern = some (.proper labelled) → labelled.pattern.occursIn text = .ok true)
            ∧ (∀ limit, leaf.maxLength = some limit → text.length ≤ limit)
            ∧ (∀ limit, leaf.minLength = some limit → limit ≤ text.length)) := by
  unfold textComplaint?
  split
  · rename_i text string reads
    have length : Settles (pure (leaf.lengthComplaint? value text)) none _ :=
      .ok (leaf.lengthComplaint_eq_none_iff value text)
    refine Settles.congr
      (.orElse (leaf.patternComplaint_settles value text) (fun _ => rfl) length) ?_
    simp [string, reads]
  · rename_i other
    exact .ok (iff_of_true rfl fun text string reads => (other text string reads).elim)

theorem minimumComplaint_settles (number : Number)
    : Settles (leaf.minimumComplaint? value number) none
        (∀ bound, leaf.minimum = some bound → number.NotBelow leaf.exclusiveMinimum bound) := by
  unfold minimumComplaint?
  cases leaf.minimum with
  | none => exact .ok (by simp)
  | some bound => exact (Number.bound_settles _ _ _ number bound _ _).congr (by simp)

theorem maximumComplaint_settles (number : Number)
    : Settles (leaf.maximumComplaint? value number) none
        (∀ bound, leaf.maximum = some bound → bound.NotBelow leaf.exclusiveMaximum number) := by
  unfold maximumComplaint?
  cases leaf.maximum with
  | none => exact .ok (by simp)
  | some bound => exact (Number.bound_settles _ _ _ bound number _ _).congr (by simp)

theorem numberComplaint_settles
    : Settles (leaf.numberComplaint? value) none
        (∀ number,
          leaf.type.isNumeric
          → value = .number number
          → (∀ bound, leaf.minimum = some bound → number.NotBelow leaf.exclusiveMinimum bound)
            ∧ (∀ bound, leaf.maximum = some bound → bound.NotBelow leaf.exclusiveMaximum number))
    := by
  unfold numberComplaint?
  split
  · rename_i number numeric
    refine Settles.congr
      (.orElse (leaf.minimumComplaint_settles _ number) (fun _ => rfl)
        (leaf.maximumComplaint_settles _ number)) ?_
    simp [numeric]
  · rename_i other
    exact .ok (iff_of_true rfl fun number numeric same => (other number numeric same).elim)

/-- Checks tried in order settle what each of them settles. -/
theorem firstComplaint_settles {check : Value → Except Fault (Option Complaint)}
    {rest : List (Value → Except Fault (Option Complaint))} {condition other : Prop}
    (h : Settles (check value) none condition)
    (hr : Settles (firstComplaint? rest value) none other)
    : Settles (firstComplaint? (check :: rest) value) none (condition ∧ other) := by
  rw [firstComplaint?]
  exact .orElse h (fun _ => rfl) hr

/-- A value conforms to a leaf exactly if none of the five checks finds anything. -/
theorem conforms_iff
    : leaf.Conforms formats value
      ↔ value.HasType leaf.type
        ∧ (∀ members,
            leaf.enumeration = some members
            → ∃ member ∈ members, value.isOrEquals member = .ok true)
        ∧ (∀ text,
            leaf.type = .string
            → value.text? = some text
            → (∀ labelled,
                leaf.pattern = some (.proper labelled) → labelled.pattern.occursIn text = .ok true)
              ∧ (∀ limit, leaf.maxLength = some limit → text.length ≤ limit)
              ∧ (∀ limit, leaf.minLength = some limit → limit ≤ text.length))
        ∧ (∀ number,
            leaf.type.isNumeric
            → value = .number number
            → (∀ bound, leaf.minimum = some bound → number.NotBelow leaf.exclusiveMinimum bound)
              ∧ (∀ bound, leaf.maximum = some bound → bound.NotBelow leaf.exclusiveMaximum number))
        ∧ ∀ label,
            leaf.format = some (.proper label)
            → ∀ format,
                formats.get? label.word = some format → format.check value = .ok true := by
  constructor
  · intro conforms
    refine ⟨conforms.type, conforms.enumeration, ?_, ?_, conforms.format⟩
    · intro text string reads
      exact ⟨fun labelled set => conforms.pattern labelled text string set reads,
        fun limit set => conforms.maxLength limit text string set reads,
        fun limit set => conforms.minLength limit text string set reads⟩
    · intro number numeric same
      exact ⟨fun bound set => conforms.minimum bound number numeric set same,
        fun bound set => conforms.maximum bound number numeric set same⟩
  · intro ⟨type, enumeration, text, number, format⟩
    exact {
      type, enumeration, format
      pattern := fun labelled read string set reads => (text read string reads).1 labelled set
      maxLength := fun limit read string set reads => (text read string reads).2.1 limit set
      minLength := fun limit read string set reads => (text read string reads).2.2 limit set
      minimum := fun bound n numeric set same => (number n numeric same).1 bound set
      maximum := fun bound n numeric set same => (number n numeric same).2 bound set
    }

/-- The first complaint of a leaf, if there is an answer, is none exactly if the value conforms. -/
theorem complaint_settles
    : Settles (leaf.complaint? formats value) none (leaf.Conforms formats value) := by
  have last : Settles (firstComplaint? [] value) none True := .ok (by simp)
  have checks := firstComplaint_settles value (leaf.typeComplaint_settles value)
    (firstComplaint_settles value (leaf.enumerationComplaint_settles value)
      (firstComplaint_settles value (leaf.textComplaint_settles value)
        (firstComplaint_settles value (leaf.numberComplaint_settles value)
          (firstComplaint_settles value (leaf.formatComplaint_settles formats value) last))))
  refine checks.congr ?_
  rw [conforms_iff, and_true]

end Leaf

end Assay
