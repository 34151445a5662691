import Assay.Proofs.Outcome
import Assay.Schema.Leaf

/-! When the fields of a leaf can be assigned, setter by setter, and what the leaf is afterwards.
Callers cite these lemmas and leave the setters closed.
-/

namespace Assay

-----------------------------------------------------------------------------------------
-- Conditions that the setters share
-----------------------------------------------------------------------------------------

/-- A type is the one that its word stands for. -/
theorem SimpleType.ofWord?_eq_some_iff {word : String} {type : SimpleType}
    : ofWord? word = some type ↔ word = type.word := by
  constructor
  · intro found
    have same := List.find?_some found
    simpa using (of_decide_eq_true same).symm
  · rintro rfl
    cases type <;> rfl

/-- Different types have different words. -/
theorem SimpleType.word_injective {type other : SimpleType} (same : type.word = other.word)
    : type = other := by
  have found := ofWord?_eq_some_iff.mpr same
  rw [ofWord?_eq_some_iff.mpr rfl] at found
  exact Option.some.inj found

/-- What is a label is not missing. -/
theorem Value.isNull_of_label {value : Value} {label : Label}
    (text : Label.ofValue? value = some label)
    : value.isNull = false := by
  cases value <;> first | rfl | nomatch text

/-- The members of an enumeration go with a type: there are some, and the type, which is not the
type of nothing or of everything, accepts each of them. -/
structure SimpleType.Enumerates (type : SimpleType) (members : List Value) : Prop where
  some : members ≠ []
  notNull : type ≠ .null
  notAny : type ≠ .any
  accepted : ∀ member ∈ members, type.accepts member = .ok true

/-- Whether a new leaf is given a field: it is, unless the value tells that it is not. -/
def LeafField.isGiven (field : LeafField) (value : Value)
    : Bool :=
  (field.given? value).toOption.getD true

namespace Leaf

theorem canEnumerate_iff (type : SimpleType) (member : Value)
    : canEnumerate type member ↔ type.accepts member = .ok true := by
  unfold canEnumerate
  cases type.accepts member <;> simp

theorem enumerationRefusal_eq_none_iff (type : SimpleType) (keyword : Keyword)
    (members : List Value)
    : enumerationRefusal? type keyword members = none
      ↔ type ≠ .null ∧ type ≠ .any ∧ ∀ member ∈ members, type.accepts member = .ok true := by
  unfold enumerationRefusal?
  split
  · rename_i excluded
    refine iff_of_false (by simp) ?_
    rintro ⟨notNull, notAny, -⟩
    exact excluded.elim notNull notAny
  · rename_i fits
    obtain ⟨notNull, notAny⟩ := not_or.mp fits
    simp [notNull, notAny, canEnumerate_iff]

variable {formats : FormatRegistry} {leaf after : Leaf} {value : Value}

theorem textsOnly_eq_ok_iff {keyword : Keyword} {done : Unit}
    : leaf.textsOnly keyword = .ok done ↔ leaf.type = .string := by
  unfold textsOnly
  split <;> simp [*]

theorem numbersOnly_eq_ok_iff {keyword : Keyword} {done : Unit}
    : leaf.numbersOnly keyword = .ok done ↔ leaf.type.isNumeric := by
  unfold numbersOnly
  split <;> simp [*]

/-- A value that has a truth is asked for it. -/
theorem flagOf_eq_ok_iff {flag : Bool}
    : flagOf value = .ok flag ↔ value.truth = .ok flag := by
  unfold flagOf
  cases value.truth <;> simp [Except.mapError]

theorem readPattern_eq_ok_iff {refusal : Pattern.Defect → Option Nat → Refusal} {source : String}
    {pattern : Pattern}
    : readPattern refusal source = .ok pattern ↔ Pattern.compile source = .ok pattern := by
  unfold readPattern
  split <;> simp [*]

-----------------------------------------------------------------------------------------
-- The setters
-----------------------------------------------------------------------------------------

/-- A text is set as a pattern of texts if it can be read as one. -/
theorem setPattern_label_eq_ok_iff {label : Label} (text : Label.ofValue? value = some label)
    : leaf.setPattern value = .ok after
      ↔ leaf.type = .string
        ∧ ∃ pattern,
            Pattern.compile label.word = .ok pattern
            ∧ after = { leaf with pattern := some (.proper ⟨label, pattern⟩) } := by
  have given := Value.isNull_of_label text
  simp only [setPattern, given, text, bind_eq_ok_iff, pure_eq_ok_iff, textsOnly_eq_ok_iff,
    readPattern_eq_ok_iff, Bool.false_eq_true, if_false, exists_const, exists_eq_left',
    eq_comm (a := after)]

/-- A pattern is set on a leaf of texts as it is. -/
theorem setPattern_compiled_eq_ok_iff {pattern : Pattern}
    : leaf.setPattern (.foreign (.pattern pattern)) = .ok after
      ↔ leaf.type = .string
        ∧ after = { leaf with pattern := some (.proper ⟨.text pattern.source, pattern⟩) } := by
  simp only [setPattern, Value.isNull, Label.ofValue?, bind_eq_ok_iff, pure_eq_ok_iff,
    textsOnly_eq_ok_iff, Bool.false_eq_true, if_false, exists_const, exists_eq_left',
    eq_comm (a := after)]

theorem setPattern_null_eq_ok_iff
    : leaf.setPattern .null = .ok after ↔ after = { leaf with pattern := none } := by
  simp only [setPattern, Value.isNull, if_true, pure_eq_ok_iff, eq_comm (a := after)]

/-- A text is set as a format if the registry lets it go with the type. -/
theorem setFormat_label_eq_ok_iff {label : Label} (text : Label.ofValue? value = some label)
    : leaf.setFormat formats value = .ok after
      ↔ formats.isCompatible label.word leaf.type
        ∧ after = { leaf with format := some (.proper label) } := by
  have given := Value.isNull_of_label text
  simp only [setFormat, given, text, Bool.false_eq_true, if_false]
  split <;> simp [*, eq_comm (a := after)]

theorem setFormat_null_eq_ok_iff
    : leaf.setFormat formats .null = .ok after ↔ after = { leaf with format := none } := by
  simp [setFormat, Value.isNull, eq_comm (a := after)]

/-- A length is none, or one of texts that is a natural number. -/
theorem length_eq_ok_iff {keyword : Keyword} {length : Option Nat}
    : leaf.length? keyword value = .ok length
      ↔ (value = .null ∧ length = none)
        ∨ ∃ limit : Nat, leaf.type = .string ∧ value = .int limit ∧ length = some limit := by
  unfold length?
  split
  · rename_i null
    cases value with
    | null => simp [Value.int, pure_eq_ok_iff, eq_comm (a := length)]
    | _ => nomatch null
  · rename_i given
    have notNull : value ≠ .null := fun same => given (same ▸ rfl)
    simp only [bind_eq_ok_iff, textsOnly_eq_ok_iff, exists_const, notNull, false_and, false_or]
    split
    · rename_i limit
      simp [pure_eq_ok_iff, Value.int, eq_comm (a := length)]
    · rename_i other
      refine iff_of_false (by simp) ?_
      rintro ⟨limit, -, same, -⟩
      exact other limit same

/-- A bound is none, or one of numbers that is a number. -/
theorem bound_eq_ok_iff {keyword : Keyword} {bound : Option Number}
    : leaf.bound? keyword value = .ok bound
      ↔ (value = .null ∧ bound = none)
        ∨ ∃ limit, leaf.type.isNumeric ∧ value = .number limit ∧ bound = some limit := by
  unfold bound?
  split
  · rename_i null
    cases value with
    | null => simp [pure_eq_ok_iff, eq_comm (a := bound)]
    | _ => nomatch null
  · rename_i given
    have notNull : value ≠ .null := fun same => given (same ▸ rfl)
    simp only [bind_eq_ok_iff, numbersOnly_eq_ok_iff, exists_const, notNull, false_and, false_or]
    split
    · simp [pure_eq_ok_iff, eq_comm (a := bound)]
    · rename_i other
      refine iff_of_false (by simp) ?_
      rintro ⟨limit, -, same, -⟩
      exact other limit same

/-- The members of a list are set as an enumeration if they go with the type. -/
theorem setEnumeration_array_eq_ok_iff {form : ArrayForm} {members : List Value}
    : leaf.setEnumeration (.array form members) = .ok after
      ↔ leaf.type.Enumerates members ∧ after = { leaf with enumeration := some members } := by
  simp only [setEnumeration, Value.isNull, Bool.false_eq_true, if_false, Value.elements,
    Value.iteration]
  cases members with
  | nil => exact iff_of_false (by simp) fun fits => fits.1.some rfl
  | cons first rest =>
      have fits := enumerationRefusal_eq_none_iff leaf.type .enumeration (first :: rest)
      dsimp only
      split
      · rename_i refusal found
        refine iff_of_false (by simp) fun goes => ?_
        have none := fits.mpr ⟨goes.1.notNull, goes.1.notAny, goes.1.accepted⟩
        nomatch found.symm.trans none
      · rename_i none
        obtain ⟨notNull, notAny, accepted⟩ := fits.mp none
        have goes : leaf.type.Enumerates (first :: rest) :=
          ⟨List.cons_ne_nil _ _, notNull, notAny, accepted⟩
        simp [goes, eq_comm (a := after)]

theorem setEnumeration_null_eq_ok_iff
    : leaf.setEnumeration .null = .ok after ↔ after = { leaf with enumeration := none } := by
  simp [setEnumeration, Value.isNull, eq_comm (a := after)]

/-- What is set on a leaf goes with a type. -/
structure Fits (formats : FormatRegistry) (leaf : Leaf) (type : SimpleType) : Prop where
  pattern : leaf.pattern.isSome → type = .string
  length : leaf.minLength.isSome ∨ leaf.maxLength.isSome → type = .string
  bound : leaf.hasBound → type.isNumeric
  format : ∀ slot, leaf.format = some slot → slot.goesWith formats type
  enumeration
    : ∀ members,
        leaf.enumeration = some members
        → type ≠ .null ∧ type ≠ .any ∧ ∀ member ∈ members, type.accepts member = .ok true

theorem obstacle_eq_none_iff {type : SimpleType}
    : leaf.obstacle? formats type = none
      ↔ (leaf.pattern.isSome → type = .string)
        ∧ (leaf.minLength.isSome ∨ leaf.maxLength.isSome → type = .string)
        ∧ (leaf.hasBound → type.isNumeric)
        ∧ ∀ slot, leaf.format = some slot → slot.goesWith formats type := by
  unfold obstacle?
  cases leaf.format with
  | none => grind
  | some slot => grind

/-- A type is set if everything else that is set goes with it. -/
theorem setType_eq_ok_iff
    : leaf.setType formats value = .ok after
      ↔ ∃ type : SimpleType,
          value.text? = some type.word
          ∧ leaf.Fits formats type
          ∧ after = { leaf with type } := by
  have named : ∀ type, value.text?.bind SimpleType.ofWord? = some type
      ↔ value.text? = some type.word := by
    intro type
    simp [Option.bind_eq_some_iff, SimpleType.ofWord?_eq_some_iff]
  have fits : ∀ type, leaf.Fits formats type
      ↔ leaf.obstacle? formats type = none
        ∧ leaf.enumeration.bind (enumerationRefusal? type .type) = none := by
    intro type
    rw [obstacle_eq_none_iff]
    simp only [Option.bind_eq_none_iff, enumerationRefusal_eq_none_iff]
    constructor
    · rintro ⟨pattern, length, bound, format, enumeration⟩
      exact ⟨⟨pattern, length, bound, format⟩, enumeration⟩
    · rintro ⟨⟨pattern, length, bound, format⟩, enumeration⟩
      exact ⟨pattern, length, bound, format, enumeration⟩
  simp only [← named, fits]
  unfold setType
  cases value.text?.bind SimpleType.ofWord? with
  | none => simp
  | some type =>
      simp only [Option.some.injEq, exists_eq_left']
      cases leaf.obstacle? formats type with
      | some obstacle => simp
      | none =>
          cases leaf.enumeration.bind (enumerationRefusal? type .type) with
          | some refusal => simp
          | none => simp [eq_comm (a := after)]

/-- A flag is assigned where the leaf is one of numbers and the value has a truth. -/
theorem flag_eq_ok_iff {keyword : Keyword} {put : Bool → Leaf}
    : (do
        leaf.numbersOnly keyword
        return put (← flagOf value)) = Except.ok after
      ↔ leaf.type.isNumeric ∧ ∃ flag, value.truth = .ok flag ∧ after = put flag := by
  simp only [bind_eq_ok_iff, numbersOnly_eq_ok_iff, flagOf_eq_ok_iff, pure_eq_ok_iff, exists_const,
    eq_comm (a := after)]

-----------------------------------------------------------------------------------------
-- New leaves
-----------------------------------------------------------------------------------------

/-- Those of some fields that a new leaf is given. -/
def givenOf (fields : List (LeafField × Value)) (order : List LeafField)
    : List (LeafField × Value) :=
  order.filterMap fun field =>
    ((fields.lookup field).filter field.isGiven).map (field, ·)

theorem mem_of_mem_givenOf {fields : List (LeafField × Value)} {order : List LeafField}
    {entry : LeafField × Value} (listed : entry ∈ givenOf fields order)
    : entry ∈ fields := by
  obtain ⟨field, -, same⟩ := List.mem_filterMap.mp listed
  obtain ⟨value, kept, rfl⟩ := Option.map_eq_some_iff.mp same
  obtain ⟨before, after, rfl, -⟩ :=
    List.lookup_eq_some_iff.mp (Option.filter_eq_some_iff.mp kept).1
  simp

/-- A field whose value cannot tell whether it is given is a flag, which cannot be assigned that
value either. -/
theorem assign_ne_ok_of_untold {field : LeafField} {fault : Fault}
    (untold : field.given? value = .error fault)
    : leaf.assign formats field value ≠ .ok after := by
  intro assigned
  cases field with
  | exclusiveMinimum | exclusiveMaximum =>
      obtain ⟨-, flag, told, -⟩ := flag_eq_ok_iff.mp assigned
      cases (untold.symm.trans told : Except.error fault = .ok flag)
  | _ => cases untold

/-- A field that a new leaf is given is assigned to it, and any other one is passed over. -/
theorem assignIfGiven_eq_ok_iff {field : LeafField}
    : leaf.assignIfGiven formats field value = .ok after
      ↔ (if field.isGiven value then leaf.assign formats field value else .ok leaf)
        = .ok after := by
  unfold assignIfGiven LeafField.isGiven
  cases told : field.given? value with
  | ok flag => cases flag <;> rfl
  | error fault => exact iff_of_false nofun (assign_ne_ok_of_untold told)

/-- A new leaf is made of fields by assigning those that it is given. -/
theorem assignGiven_eq_ok_iff {fields : List (LeafField × Value)} {order : List LeafField}
    : leaf.assignGiven formats fields order = .ok after
      ↔ leaf.assignAll formats (givenOf fields order) = .ok after := by
  induction order generalizing leaf with
  | nil => rfl
  | cons field rest ih =>
      rw [assignGiven, givenOf, List.filterMap_cons]
      cases fields.lookup field with
      | none => exact ih
      | some value =>
          simp only [bind_eq_ok_iff, assignIfGiven_eq_ok_iff, ih]
          cases given : field.isGiven value with
          | true => simp [given, Option.filter_some, assignAll, bind_eq_ok_iff, givenOf]
          | false => simp [given, Option.filter_some, givenOf]

end Leaf

end Assay
