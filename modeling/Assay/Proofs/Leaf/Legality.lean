import Assay.Proofs.Leaf.Assignment

/-! States of leaves, seen as one value for each field, and which of them are legal. The setters
keep states legal, and take exactly the assignments after which the state still is.
-/

namespace Assay

-----------------------------------------------------------------------------------------
-- States
-----------------------------------------------------------------------------------------

/-- A value for each field of a leaf. -/
abbrev LeafState : Type := LeafField → Value

namespace Leaf

/-- The state of a leaf: each field as it reads, nothing where it is not set. -/
def state (leaf : Leaf)
    : LeafState
  | .type => .string leaf.type.word
  | .pattern =>
      match leaf.pattern with
      | none => .null
      | some (.proper labelled) => .foreign (.pattern labelled.pattern)
      | some (.stray value) => value
  | .format => leaf.formatValue?.getD .null
  | .minLength => (leaf.minLength.map fun limit : Nat => Value.int limit).getD .null
  | .maxLength => (leaf.maxLength.map fun limit : Nat => Value.int limit).getD .null
  | .minimum => (leaf.minimum.map Value.number).getD .null
  | .maximum => (leaf.maximum.map Value.number).getD .null
  | .exclusiveMinimum => .bool leaf.exclusiveMinimum
  | .exclusiveMaximum => .bool leaf.exclusiveMaximum
  | .enumeration => (leaf.enumeration.map (Value.array .tuple)).getD .null

end Leaf

namespace LeafField

/-- Whether a field is an exclusive flag. -/
def isFlag
    : LeafField → Bool
  | .exclusiveMinimum | .exclusiveMaximum => true
  | _ => false

/-- The values that a field is documented to be assigned: a pattern is a text or compiled, a format
a text, an enumeration a list, and each of them can be missing. The other fields take what they are
given. -/
def Documents
    : LeafField → Value → Prop
  | .pattern, value =>
      value = .null ∨ (∃ label, Label.ofValue? value = some label)
      ∨ ∃ pattern, value = .foreign (.pattern pattern)
  | .format, value => value = .null ∨ ∃ label, Label.ofValue? value = some label
  | .enumeration, value => value = .null ∨ ∃ members, value = .array .list members
  | _, _ => True

/-- What a field reads once a value has been assigned to it: a type by its word, a text for a
pattern once it is compiled, for a flag the truth of the value, for a list its members. -/
def Stores
    : LeafField → Value → Value → Prop
  | .type, value, stored => ∃ word, value.text? = some word ∧ stored = .string word
  | .pattern, value, stored =>
      (∃ label pattern,
        Label.ofValue? value = some label
        ∧ Pattern.compile label.word = .ok pattern
        ∧ stored = .foreign (.pattern pattern))
      ∨ Label.ofValue? value = none ∧ stored = value
  | .exclusiveMinimum, value, stored | .exclusiveMaximum, value, stored =>
      ∃ flag, value.truth = .ok flag ∧ stored = .bool flag
  | .enumeration, value, stored =>
      (∃ form members, value = .array form members ∧ stored = .array .tuple members)
      ∨ value = .null ∧ stored = .null
  | _, value, stored => stored = value

/-- What a field may read in a leaf of a type. -/
def Admits (formats : FormatRegistry) (type : SimpleType)
    : LeafField → Value → Prop
  | .type, stored => stored = .string type.word
  | .pattern, stored =>
      stored = .null ∨ type = .string ∧ ∃ pattern, stored = .foreign (.pattern pattern)
  | .format, stored =>
      stored = .null
      ∨ ∃ label, Label.ofValue? stored = some label ∧ formats.isCompatible label.word type
  | .minLength, stored | .maxLength, stored =>
      stored = .null ∨ type = .string ∧ ∃ limit : Nat, stored = .int limit
  | .minimum, stored | .maximum, stored =>
      stored = .null ∨ type.isNumeric ∧ ∃ bound, stored = .number bound
  | .exclusiveMinimum, stored | .exclusiveMaximum, stored =>
      stored = .bool false ∨ type.isNumeric ∧ stored = .bool true
  | .enumeration, stored =>
      stored = .null ∨ ∃ members, stored = .array .tuple members ∧ type.Enumerates members

end LeafField

/-- A state is legal if each field reads what it may in a leaf of one and the same type. -/
def LeafState.Legal (formats : FormatRegistry) (state : LeafState)
    : Prop :=
  ∃ type : SimpleType, ∀ field : LeafField, field.Admits formats type (state field)

-----------------------------------------------------------------------------------------
-- Legal leaves
-----------------------------------------------------------------------------------------

/-- A value that is a label is what the label shows. -/
theorem Label.value_of_ofValue? {value : Value} {label : Label}
    (text : ofValue? value = some label)
    : label.value = value := by
  unfold ofValue? at text
  split at text
  · obtain rfl := Option.some.inj text
    rfl
  · obtain rfl := Option.some.inj text
    rfl
  · nomatch text

namespace Leaf

variable {formats : FormatRegistry} {leaf after : Leaf}

/-- Only the type of a leaf can be the one that its state is legal for. -/
theorem legal_iff
    : LeafState.Legal formats leaf.state
      ↔ ∀ field : LeafField, field.Admits formats leaf.type (leaf.state field) := by
  constructor
  · rintro ⟨type, admits⟩
    have same : leaf.type = type := SimpleType.word_injective (Value.string.inj (admits .type))
    exact same ▸ admits
  · exact fun admits => ⟨leaf.type, admits⟩

/-- With another value for a field other than the type, a legal state stays legal if the field may
read the value. -/
theorem update_legal_iff (legal : LeafState.Legal formats leaf.state) {field : LeafField}
    {stored : Value}
    (other : field ≠ .type)
    : LeafState.Legal formats (Function.update leaf.state field stored)
      ↔ field.Admits formats leaf.type stored := by
  constructor
  · rintro ⟨type, admits⟩
    have typed := admits .type
    rw [Function.update_of_ne other.symm] at typed
    have same : leaf.type = type := SimpleType.word_injective (Value.string.inj typed)
    have here := admits field
    rw [Function.update_self] at here
    exact same ▸ here
  · intro here
    refine ⟨leaf.type, fun another => ?_⟩
    by_cases same : another = field
    · rwa [same, Function.update_self]
    · rw [Function.update_of_ne same]
      exact legal_iff.mp legal another

/-- With another type, a legal state stays legal if every other field may read what it does. -/
theorem update_type_legal_iff {stored : Value}
    : LeafState.Legal formats (Function.update leaf.state LeafField.type stored)
      ↔ ∃ type : SimpleType,
          stored = .string type.word
          ∧ ∀ field : LeafField, field ≠ .type → field.Admits formats type (leaf.state field) := by
  constructor
  · rintro ⟨type, admits⟩
    have typed := admits .type
    rw [Function.update_self] at typed
    refine ⟨type, typed, fun field other => ?_⟩
    have here := admits field
    rwa [Function.update_of_ne other] at here
  · rintro ⟨type, typed, admits⟩
    refine ⟨type, fun field => ?_⟩
    by_cases same : field = .type
    · rwa [same, Function.update_self]
    · rw [Function.update_of_ne same]
      exact admits field same

-----------------------------------------------------------------------------------------
-- What the setters store
-----------------------------------------------------------------------------------------

/-- The pattern of a leaf is a pattern, and its format a name. -/
structure Proper (leaf : Leaf) : Prop where
  pattern : ∀ value, leaf.pattern ≠ some (.stray value)
  format : ∀ value, leaf.format ≠ some (.stray value)

/-- An assignment of a field other than the type has stored a value that the field may read, and
changed nothing else. -/
structure Stored (formats : FormatRegistry) (leaf after : Leaf) (field : LeafField)
    (value stored : Value) : Prop where
  stores : field.Stores value stored
  admits : field.Admits formats leaf.type stored
  numeric : field.isFlag → leaf.type.isNumeric
  state : after.state = Function.update leaf.state field stored
  proper : after.Proper

variable {value : Value}

theorem pattern_stored (proper : leaf.Proper) (documented : LeafField.pattern.Documents value)
    (assigned : leaf.setPattern value = .ok after)
    : ∃ stored, Stored formats leaf after .pattern value stored := by
  rcases documented with rfl | ⟨label, text⟩ | ⟨pattern, rfl⟩
  · obtain rfl := setPattern_null_eq_ok_iff.mp assigned
    refine ⟨.null, Or.inr ⟨rfl, rfl⟩, Or.inl rfl, nofun, ?_, nofun, proper.format⟩
    funext field
    cases field <;> rfl
  · obtain ⟨string, pattern, compiled, rfl⟩ := (setPattern_label_eq_ok_iff text).mp assigned
    refine ⟨.foreign (.pattern pattern), Or.inl ⟨label, pattern, text, compiled, rfl⟩,
      Or.inr ⟨string, pattern, rfl⟩, nofun, ?_, nofun, proper.format⟩
    funext field
    cases field <;> rfl
  · obtain ⟨string, rfl⟩ := setPattern_compiled_eq_ok_iff.mp assigned
    refine ⟨.foreign (.pattern pattern), Or.inr ⟨rfl, rfl⟩, Or.inr ⟨string, pattern, rfl⟩, nofun,
      ?_, nofun, proper.format⟩
    funext field
    cases field <;> rfl

theorem format_stored (proper : leaf.Proper) (documented : LeafField.format.Documents value)
    (assigned : leaf.setFormat formats value = .ok after)
    : ∃ stored, Stored formats leaf after .format value stored := by
  rcases documented with rfl | ⟨label, text⟩
  · obtain rfl := setFormat_null_eq_ok_iff.mp assigned
    refine ⟨.null, rfl, Or.inl rfl, nofun, ?_, proper.pattern, nofun⟩
    funext field
    cases field <;> rfl
  · obtain ⟨compatible, rfl⟩ := (setFormat_label_eq_ok_iff text).mp assigned
    refine ⟨value, rfl, Or.inr ⟨label, text, compatible⟩, nofun, ?_, proper.pattern, nofun⟩
    funext field
    cases field with
    | format => exact Label.value_of_ofValue? text
    | _ => rfl

/-- A length that is set reads as the value that it was given as. -/
theorem length_stored {keyword : Keyword} {length : Option Nat}
    (assigned : leaf.length? keyword value = .ok length)
    : (length.map fun limit : Nat => Value.int limit).getD .null = value
      ∧ (value = .null ∨ leaf.type = .string ∧ ∃ limit : Nat, value = .int limit) := by
  rcases length_eq_ok_iff.mp assigned with ⟨rfl, rfl⟩ | ⟨limit, string, rfl, rfl⟩
  · exact ⟨rfl, Or.inl rfl⟩
  · exact ⟨rfl, Or.inr ⟨string, limit, rfl⟩⟩

/-- A bound that is set reads as the value that it was given as. -/
theorem bound_stored {keyword : Keyword} {bound : Option Number}
    (assigned : leaf.bound? keyword value = .ok bound)
    : (bound.map Value.number).getD .null = value
      ∧ (value = .null ∨ leaf.type.isNumeric ∧ ∃ bound, value = .number bound) := by
  rcases bound_eq_ok_iff.mp assigned with ⟨rfl, rfl⟩ | ⟨limit, numeric, rfl, rfl⟩
  · exact ⟨rfl, Or.inl rfl⟩
  · exact ⟨rfl, Or.inr ⟨numeric, limit, rfl⟩⟩

theorem enumeration_stored (proper : leaf.Proper)
    (documented : LeafField.enumeration.Documents value)
    (assigned : leaf.setEnumeration value = .ok after)
    : ∃ stored, Stored formats leaf after .enumeration value stored := by
  rcases documented with rfl | ⟨members, rfl⟩
  · obtain rfl := setEnumeration_null_eq_ok_iff.mp assigned
    refine ⟨.null, Or.inr ⟨rfl, rfl⟩, Or.inl rfl, nofun, ?_, proper.pattern, proper.format⟩
    funext field
    cases field <;> rfl
  · obtain ⟨enumerates, rfl⟩ := setEnumeration_array_eq_ok_iff.mp assigned
    refine ⟨.array .tuple members, Or.inl ⟨.list, members, rfl, rfl⟩,
      Or.inr ⟨members, rfl, enumerates⟩, nofun, ?_, proper.pattern, proper.format⟩
    funext field
    cases field <;> rfl

/-- An assignment of a field other than the type that succeeds stores what it should. -/
theorem stored_of_assign (proper : leaf.Proper) {field : LeafField} (other : field ≠ .type)
    (documented : field.Documents value) (assigned : leaf.assign formats field value = .ok after)
    : ∃ stored, Stored formats leaf after field value stored := by
  cases field with
  | type => exact absurd rfl other
  | pattern => exact pattern_stored proper documented assigned
  | format => exact format_stored proper documented assigned
  | enumeration => exact enumeration_stored proper documented assigned
  | minLength | maxLength =>
      simp only [assign, bind_eq_ok_iff, pure_eq_ok_iff] at assigned
      obtain ⟨length, assigned, rfl⟩ := assigned
      obtain ⟨reads, admits⟩ := length_stored assigned
      refine ⟨value, rfl, admits, nofun, ?_, proper.pattern, proper.format⟩
      exact Function.eq_update_iff.mpr ⟨reads, fun field _ => by cases field <;> trivial⟩
  | minimum | maximum =>
      simp only [assign, bind_eq_ok_iff, pure_eq_ok_iff] at assigned
      obtain ⟨bound, assigned, rfl⟩ := assigned
      obtain ⟨reads, admits⟩ := bound_stored assigned
      refine ⟨value, rfl, admits, nofun, ?_, proper.pattern, proper.format⟩
      exact Function.eq_update_iff.mpr ⟨reads, fun field _ => by cases field <;> trivial⟩
  | exclusiveMinimum | exclusiveMaximum =>
      obtain ⟨numeric, flag, truth, rfl⟩ := flag_eq_ok_iff.mp assigned
      refine ⟨.bool flag, ⟨flag, truth, rfl⟩, ?_, fun _ => numeric, ?_, proper.pattern,
        proper.format⟩
      · cases flag
        · exact Or.inl rfl
        · exact Or.inr ⟨numeric, rfl⟩
      · funext field
        cases field <;> rfl

-----------------------------------------------------------------------------------------
-- What the setters take
-----------------------------------------------------------------------------------------

theorem pattern_taken {stored : Value} (documented : LeafField.pattern.Documents value)
    (stores : LeafField.pattern.Stores value stored)
    (admits : LeafField.pattern.Admits formats leaf.type stored)
    : ∃ after, leaf.setPattern value = .ok after := by
  rcases documented with rfl | ⟨label, text⟩ | ⟨pattern, rfl⟩
  · exact ⟨_, setPattern_null_eq_ok_iff.mpr rfl⟩
  · rcases stores with ⟨label', pattern, text', compiled, rfl⟩ | ⟨none, -⟩
    · rcases admits with null | ⟨string, -⟩
      · nomatch null
      · exact ⟨_, (setPattern_label_eq_ok_iff text').mpr ⟨string, pattern, compiled, rfl⟩⟩
    · nomatch none.symm.trans text
  · rcases stores with ⟨label, pattern', text, -⟩ | ⟨-, rfl⟩
    · nomatch text
    · rcases admits with null | ⟨string, -⟩
      · nomatch null
      · exact ⟨_, setPattern_compiled_eq_ok_iff.mpr ⟨string, rfl⟩⟩

theorem format_taken (documented : LeafField.format.Documents value)
    (admits : LeafField.format.Admits formats leaf.type value)
    : ∃ after, leaf.setFormat formats value = .ok after := by
  rcases documented with rfl | ⟨label, text⟩
  · exact ⟨_, setFormat_null_eq_ok_iff.mpr rfl⟩
  · rcases admits with rfl | ⟨label', text', compatible⟩
    · nomatch text
    · exact ⟨_, (setFormat_label_eq_ok_iff text').mpr ⟨compatible, rfl⟩⟩

theorem length_taken (keyword : Keyword)
    (admits : value = .null ∨ leaf.type = .string ∧ ∃ limit : Nat, value = .int limit)
    : ∃ length, leaf.length? keyword value = .ok length := by
  rcases admits with rfl | ⟨string, limit, rfl⟩
  · exact ⟨_, length_eq_ok_iff.mpr (Or.inl ⟨rfl, rfl⟩)⟩
  · exact ⟨_, length_eq_ok_iff.mpr (Or.inr ⟨limit, string, rfl, rfl⟩)⟩

theorem bound_taken (keyword : Keyword)
    (admits : value = .null ∨ leaf.type.isNumeric ∧ ∃ bound, value = .number bound)
    : ∃ bound, leaf.bound? keyword value = .ok bound := by
  rcases admits with rfl | ⟨numeric, bound, rfl⟩
  · exact ⟨_, bound_eq_ok_iff.mpr (Or.inl ⟨rfl, rfl⟩)⟩
  · exact ⟨_, bound_eq_ok_iff.mpr (Or.inr ⟨bound, numeric, rfl, rfl⟩)⟩

theorem enumeration_taken {stored : Value} (stores : LeafField.enumeration.Stores value stored)
    (admits : LeafField.enumeration.Admits formats leaf.type stored)
    : ∃ after, leaf.setEnumeration value = .ok after := by
  rcases stores with ⟨form, members, rfl, rfl⟩ | ⟨rfl, rfl⟩
  · rcases admits with null | ⟨members', same, enumerates⟩
    · nomatch null
    · obtain ⟨-, rfl⟩ := Value.array.inj same
      exact ⟨_, setEnumeration_array_eq_ok_iff.mpr ⟨enumerates, rfl⟩⟩
  · exact ⟨_, setEnumeration_null_eq_ok_iff.mpr rfl⟩

/-- A field other than the type takes what it stores as a value that it may read. -/
theorem assign_taken {field : LeafField} (other : field ≠ .type)
    (documented : field.Documents value) {stored : Value} (stores : field.Stores value stored)
    (admits : field.Admits formats leaf.type stored) (numeric : field.isFlag → leaf.type.isNumeric)
    : ∃ after, leaf.assign formats field value = .ok after := by
  cases field with
  | type => exact absurd rfl other
  | pattern => exact pattern_taken documented stores admits
  | format =>
      obtain rfl : stored = value := stores
      exact format_taken documented admits
  | enumeration => exact enumeration_taken stores admits
  | minLength | maxLength =>
      obtain rfl : stored = value := stores
      obtain ⟨length, taken⟩ := length_taken _ admits
      exact ⟨_, bind_eq_ok_iff.mpr ⟨length, taken, rfl⟩⟩
  | minimum | maximum =>
      obtain rfl : stored = value := stores
      obtain ⟨bound, taken⟩ := bound_taken _ admits
      exact ⟨_, bind_eq_ok_iff.mpr ⟨bound, taken, rfl⟩⟩
  | exclusiveMinimum | exclusiveMaximum =>
      obtain ⟨flag, truth, -⟩ := stores
      exact ⟨_, flag_eq_ok_iff.mpr ⟨numeric rfl, flag, truth, rfl⟩⟩

-----------------------------------------------------------------------------------------
-- The type
-----------------------------------------------------------------------------------------

/-- A field that is not set, or is set to something, may read what it does if it is not set or a
condition of what is set holds. -/
theorem optional_admits_iff {α : Type} (shown : α → Value) (given : ∀ a, shown a ≠ .null)
    (set : Option α) {condition : Prop}
    : ((set.map shown).getD .null = .null
        ∨ condition ∧ ∃ a, (set.map shown).getD .null = shown a)
      ↔ (set.isSome → condition) := by
  cases set with
  | none => simp
  | some a =>
      have shows : ∃ b, shown a = shown b := ⟨a, rfl⟩
      simp [given, shows]

theorem flag_admits_iff (flag : Bool) {condition : Prop}
    : (Value.bool flag = .bool false ∨ condition ∧ Value.bool flag = .bool true)
      ↔ (flag → condition) := by
  cases flag <;> simp

theorem pattern_admits_iff (proper : leaf.Proper) (type : SimpleType)
    : LeafField.pattern.Admits formats type (leaf.state .pattern)
      ↔ (leaf.pattern.isSome → type = .string) := by
  cases set : leaf.pattern with
  | none => simp [LeafField.Admits, state, set]
  | some slot =>
      cases slot with
      | stray value => exact absurd set (proper.pattern value)
      | proper labelled => simp [LeafField.Admits, state, set]

theorem format_admits_iff (proper : leaf.Proper) (type : SimpleType)
    : LeafField.format.Admits formats type (leaf.state .format)
      ↔ ∀ slot, leaf.format = some slot → slot.goesWith formats type := by
  cases set : leaf.format with
  | none => simp [LeafField.Admits, state, formatValue?, set]
  | some slot =>
      cases slot with
      | stray value => exact absurd set (proper.format value)
      | proper label =>
          have given : label.value ≠ .null := by cases label <;> nofun
          simp [LeafField.Admits, state, formatValue?, set, given, Label.ofValue?_value,
            Slot.goesWith]

theorem enumeration_admits_iff (type : SimpleType)
    : LeafField.enumeration.Admits formats type (leaf.state .enumeration)
      ↔ ∀ members, leaf.enumeration = some members → type.Enumerates members := by
  cases set : leaf.enumeration with
  | none => simp [LeafField.Admits, state, set]
  | some members => simp [LeafField.Admits, state, set]

/-- What is set on a legal leaf goes with a type exactly if each other field may read, in a leaf of
the type, what it does. -/
theorem fits_iff (proper : leaf.Proper) (legal : LeafState.Legal formats leaf.state)
    (type : SimpleType)
    : leaf.Fits formats type
      ↔ ∀ field : LeafField, field ≠ .type → field.Admits formats type (leaf.state field) := by
  have length := fun set : Option Nat =>
    @optional_admits_iff _ (fun limit : Nat => .int limit) nofun set (type = .string)
  have bound := fun set : Option Number =>
    @optional_admits_iff _ Value.number nofun set type.isNumeric
  constructor
  · intro fits field other
    have bounded : leaf.minimum.isSome ∨ leaf.maximum.isSome ∨ leaf.exclusiveMinimum
        ∨ leaf.exclusiveMaximum → type.isNumeric := by
      simpa [hasBound, or_assoc] using fits.bound
    cases field with
    | type => exact absurd rfl other
    | pattern => exact (pattern_admits_iff proper type).mpr fits.pattern
    | format => exact (format_admits_iff proper type).mpr fits.format
    | minLength => exact (length _).mpr fun set => fits.length (Or.inl set)
    | maxLength => exact (length _).mpr fun set => fits.length (Or.inr set)
    | minimum => exact (bound _).mpr fun set => bounded (Or.inl set)
    | maximum => exact (bound _).mpr fun set => bounded (Or.inr (Or.inl set))
    | exclusiveMinimum =>
        exact (flag_admits_iff _).mpr fun set => bounded (Or.inr (Or.inr (Or.inl set)))
    | exclusiveMaximum =>
        exact (flag_admits_iff _).mpr fun set => bounded (Or.inr (Or.inr (Or.inr set)))
    | enumeration =>
        refine (enumeration_admits_iff type).mpr fun members set => ?_
        have before := (enumeration_admits_iff leaf.type).mp (legal_iff.mp legal .enumeration)
        obtain ⟨notNull, notAny, accepted⟩ := fits.enumeration members set
        exact ⟨(before members set).some, notNull, notAny, accepted⟩
  · intro admits
    refine ⟨(pattern_admits_iff proper type).mp (admits .pattern nofun), ?_, ?_,
      (format_admits_iff proper type).mp (admits .format nofun), ?_⟩
    · rintro (set | set)
      · exact (length _).mp (admits .minLength nofun) set
      · exact (length _).mp (admits .maxLength nofun) set
    · intro set
      simp only [hasBound, Bool.or_eq_true, or_assoc] at set
      rcases set with set | set | set | set
      · exact (bound _).mp (admits .minimum nofun) set
      · exact (bound _).mp (admits .maximum nofun) set
      · exact (flag_admits_iff _).mp (admits .exclusiveMinimum nofun) set
      · exact (flag_admits_iff _).mp (admits .exclusiveMaximum nofun) set
    · intro members set
      have enumerates :=
        (enumeration_admits_iff type).mp (admits .enumeration nofun) members set
      exact ⟨enumerates.notNull, enumerates.notAny, enumerates.accepted⟩

-----------------------------------------------------------------------------------------
-- One assignment
-----------------------------------------------------------------------------------------

/-- A leaf is proper and its state is legal. -/
structure Sound (formats : FormatRegistry) (leaf : Leaf) : Prop where
  legal : LeafState.Legal formats leaf.state
  proper : leaf.Proper

/-- An assignment to a sound leaf that succeeds leads to the state with the field replaced, which is
legal. -/
theorem state_of_assign (sound : leaf.Sound formats) {field : LeafField}
    (documented : field.Documents value) (assigned : leaf.assign formats field value = .ok after)
    : after.Proper
      ∧ ∃ stored,
          field.Stores value stored
          ∧ LeafState.Legal formats (Function.update leaf.state field stored)
          ∧ (field.isFlag → leaf.type.isNumeric)
          ∧ after.state = Function.update leaf.state field stored := by
  by_cases type : field = .type
  · subst type
    obtain ⟨type, named, fits, rfl⟩ := setType_eq_ok_iff.mp assigned
    refine ⟨⟨sound.proper.pattern, sound.proper.format⟩, .string type.word, ⟨type.word, named, rfl⟩,
      ?_, nofun, ?_⟩
    · exact update_type_legal_iff.mpr ⟨type, rfl, (fits_iff sound.proper sound.legal type).mp fits⟩
    · funext field
      cases field <;> rfl
  · obtain ⟨stored, stores⟩ := stored_of_assign sound.proper type documented assigned
    exact ⟨stores.proper, stored, stores.stores,
      (update_legal_iff sound.legal type).mpr stores.admits, stores.numeric, stores.state⟩

/-- An assignment to a sound leaf is taken if the state with the field replaced is legal, and a flag
only by a leaf of numbers. -/
theorem assign_of_legal (sound : leaf.Sound formats) {field : LeafField}
    (documented : field.Documents value) {stored : Value} (stores : field.Stores value stored)
    (legal : LeafState.Legal formats (Function.update leaf.state field stored))
    (numeric : field.isFlag → leaf.type.isNumeric)
    : ∃ after, leaf.assign formats field value = .ok after := by
  by_cases type : field = .type
  · subst type
    obtain ⟨type, rfl, admits⟩ := update_type_legal_iff.mp legal
    obtain ⟨word, named, same⟩ := stores
    obtain rfl := Value.string.inj same
    have fits := (fits_iff sound.proper sound.legal type).mpr admits
    exact ⟨_, setType_eq_ok_iff.mpr ⟨type, named, fits, rfl⟩⟩
  · exact assign_taken type documented stores ((update_legal_iff sound.legal type).mp legal) numeric

theorem sound_of_assign (sound : leaf.Sound formats) {field : LeafField}
    (documented : field.Documents value) (assigned : leaf.assign formats field value = .ok after)
    : after.Sound formats := by
  obtain ⟨proper, stored, -, legal, -, same⟩ := state_of_assign sound documented assigned
  exact ⟨same ▸ legal, proper⟩

-----------------------------------------------------------------------------------------
-- Failures
-----------------------------------------------------------------------------------------

/-- An outcome is an answer or a refusal, but no fault. -/
def NeverStops {α : Type} (outcome : Except Failure α)
    : Prop :=
  ∀ fault, outcome ≠ .error (.stopped fault)

theorem NeverStops.ok {α : Type} (answer : α)
    : NeverStops (.ok answer) := nofun

theorem NeverStops.refused {α : Type} (refusal : Refusal)
    : NeverStops (.error (.refused refusal) : Except Failure α) := nofun

theorem NeverStops.bind {α β : Type} {first : Except Failure α} {next : α → Except Failure β}
    (here : NeverStops first) (later : ∀ answer, NeverStops (next answer))
    : NeverStops (first >>= next) := by
  intro fault stopped
  rcases bind_eq_error_iff.mp stopped with first | ⟨answer, -, next⟩
  · exact here fault first
  · exact later answer fault next

theorem textsOnly_neverStops (keyword : Keyword)
    : NeverStops (leaf.textsOnly keyword) := by
  unfold textsOnly
  split
  · exact .ok _
  · exact .refused _

theorem numbersOnly_neverStops (keyword : Keyword)
    : NeverStops (leaf.numbersOnly keyword) := by
  unfold numbersOnly
  split
  · exact .ok _
  · exact .refused _

theorem setType_neverStops
    : NeverStops (leaf.setType formats value) := by
  unfold setType
  split
  · exact .refused _
  · split
    · exact .refused _
    · split
      · exact .refused _
      · exact .ok _

theorem length_neverStops (keyword : Keyword)
    : NeverStops (leaf.length? keyword value) := by
  unfold length?
  split
  · exact .ok _
  · refine .bind (textsOnly_neverStops keyword) fun _ => ?_
    split
    · exact .ok _
    · exact .refused _

theorem bound_neverStops (keyword : Keyword)
    : NeverStops (leaf.bound? keyword value) := by
  unfold bound?
  split
  · exact .ok _
  · refine .bind (numbersOnly_neverStops keyword) fun _ => ?_
    split
    · exact .ok _
    · exact .refused _

theorem setFormat_neverStops (documented : LeafField.format.Documents value)
    : NeverStops (leaf.setFormat formats value) := by
  rcases documented with rfl | ⟨label, text⟩
  · exact .ok _
  · simp only [setFormat, Value.isNull_of_label text, text, Bool.false_eq_true, if_false]
    split
    · exact .ok _
    · exact .refused _

theorem setEnumeration_neverStops (documented : LeafField.enumeration.Documents value)
    : NeverStops (leaf.setEnumeration value) := by
  rcases documented with rfl | ⟨members, rfl⟩
  · exact .ok _
  · simp only [setEnumeration, Value.isNull, Bool.false_eq_true, if_false, Value.elements,
      Value.iteration]
    cases members with
    | nil => exact .refused _
    | cons first rest =>
        dsimp only
        split
        · exact .refused _
        · exact .ok _

/-- A text stops being read as a pattern where its reading runs into a fault. -/
theorem readPattern_eq_stopped_iff {refusal : Pattern.Defect → Option Nat → Refusal}
    {source : String} {fault : Fault}
    : readPattern refusal source = .error (.stopped fault)
      ↔ Pattern.compile source = .error (.fault fault) := by
  unfold readPattern
  split <;> simp [*]

/-- Setting a text as a pattern stops on leaves of texts alone. -/
theorem setPattern_label_eq_stopped_iff {label : Label} (text : Label.ofValue? value = some label)
    {fault : Fault}
    : leaf.setPattern value = .error (.stopped fault)
      ↔ leaf.type = .string ∧ Pattern.compile label.word = .error (.fault fault) := by
  have given := Value.isNull_of_label text
  have texts := leaf.textsOnly_neverStops .pattern fault
  simp only [setPattern, given, text, bind_eq_error_iff, texts, textsOnly_eq_ok_iff,
    readPattern_eq_stopped_iff, Bool.false_eq_true, if_false, false_or, exists_const]
  refine and_congr_right fun _ => ?_
  simp [pure, Except.pure]

/-- Setting a pattern is stopped only by a text that cannot be read as one, for another reason than
a defect of the text. -/
theorem setPattern_stopped (documented : LeafField.pattern.Documents value) {fault : Fault}
    (stopped : leaf.setPattern value = .error (.stopped fault))
    : ∃ label,
        Label.ofValue? value = some label ∧ Pattern.compile label.word = .error (.fault fault) := by
  rcases documented with rfl | ⟨label, text⟩ | ⟨pattern, rfl⟩
  · cases stopped
  · exact ⟨label, text, ((setPattern_label_eq_stopped_iff text).mp stopped).2⟩
  · simp only [setPattern, Value.isNull, Label.ofValue?, Bool.false_eq_true, if_false] at stopped
    exact absurd stopped (NeverStops.bind (textsOnly_neverStops _) (fun _ => .ok _) fault)

theorem flagOf_eq_stopped_iff {fault : Fault}
    : flagOf value = .error (.stopped fault) ↔ value.truth = .error fault := by
  unfold flagOf
  cases value.truth <;> simp [Except.mapError]

/-- Only a text that cannot be read as a pattern for another reason than a defect of its own stops
an assignment, and a value that fails when a flag asks it for its truth. -/
theorem stopped_of_assign {field : LeafField} (documented : field.Documents value) {fault : Fault}
    (stopped : leaf.assign formats field value = .error (.stopped fault))
    : (field = .pattern
        ∧ ∃ label,
            Label.ofValue? value = some label
            ∧ Pattern.compile label.word = .error (.fault fault))
      ∨ field.isFlag ∧ value.truth = .error fault := by
  cases field with
  | pattern => exact Or.inl ⟨rfl, setPattern_stopped documented stopped⟩
  | type => exact absurd stopped (setType_neverStops fault)
  | format => exact absurd stopped (setFormat_neverStops documented fault)
  | enumeration => exact absurd stopped (setEnumeration_neverStops documented fault)
  | minLength | maxLength =>
      exact absurd stopped (NeverStops.bind (length_neverStops _) (fun _ => .ok _) fault)
  | minimum | maximum =>
      exact absurd stopped (NeverStops.bind (bound_neverStops _) (fun _ => .ok _) fault)
  | exclusiveMinimum | exclusiveMaximum =>
      refine Or.inr ⟨rfl, ?_⟩
      rcases bind_eq_error_iff.mp stopped with typed | ⟨-, -, asked⟩
      · exact absurd typed (numbersOnly_neverStops _ fault)
      · rcases bind_eq_error_iff.mp asked with asked | ⟨flag, -, returned⟩
        · exact flagOf_eq_stopped_iff.mp asked
        · nomatch returned

-----------------------------------------------------------------------------------------
-- Leaves that can be reached
-----------------------------------------------------------------------------------------

/-- What a call of a setter leaves behind, whether or not it returns. -/
def afterCall (formats : FormatRegistry) (leaf : Leaf) (field : LeafField) (value : Value)
    : Leaf :=
  (set formats field value).left leaf

theorem afterCall_of_ok {field : LeafField} (assigned : leaf.assign formats field value = .ok after)
    : leaf.afterCall formats field value = after := by
  rw [afterCall, Change.left, set, Change.write_apply, assigned]

/-- A setter that fails has not written yet. -/
theorem afterCall_of_error {field : LeafField} {failure : Failure}
    (failed : leaf.assign formats field value = .error failure)
    : leaf.afterCall formats field value = leaf := by
  rw [afterCall, Change.left, set, Change.write_apply, failed]

/-- Leaves that have been made and then assigned to, again and again, with values that the fields
are documented to be assigned. Assignments need not have succeeded. -/
inductive Reachable (formats : FormatRegistry) : Leaf → Prop
  | made {fields leaf} (documented : ∀ entry ∈ fields, LeafField.Documents entry.1 entry.2)
    (built : ofFields formats fields = .ok leaf)
    : Reachable formats leaf
  | called {leaf field value} (before : Reachable formats leaf)
    (documented : field.Documents value)
    : Reachable formats (leaf.afterCall formats field value)

theorem sound_initial
    : Sound formats {} := by
  refine ⟨⟨.any, fun field => ?_⟩, nofun, nofun⟩
  cases field <;> first | exact rfl | exact Or.inl rfl

theorem sound_of_assignAll {fields : List (LeafField × Value)}
    (documented : ∀ entry ∈ fields, LeafField.Documents entry.1 entry.2)
    (sound : leaf.Sound formats) (assigned : leaf.assignAll formats fields = .ok after)
    : after.Sound formats := by
  induction fields generalizing leaf with
  | nil =>
      obtain rfl := Except.ok.inj assigned
      exact sound
  | cons entry rest ih =>
      obtain ⟨field, value⟩ := entry
      obtain ⟨here, later⟩ := List.forall_mem_cons.mp documented
      simp only [assignAll, bind_eq_ok_iff] at assigned
      obtain ⟨next, first, assigned⟩ := assigned
      exact ih later (sound_of_assign sound here first) assigned

/-- Every leaf that can be reached is sound, by induction on the calls. -/
theorem Reachable.sound (reachable : Reachable formats leaf)
    : leaf.Sound formats := by
  induction reachable with
  | made documented built =>
      exact sound_of_assignAll (fun entry given => documented entry (mem_of_mem_givenOf given))
        sound_initial (assignGiven_eq_ok_iff.mp built)
  | @called leaf field value before documented ih =>
      cases assigned : leaf.assign formats field value with
      | ok after =>
          rw [afterCall_of_ok assigned]
          exact sound_of_assign ih documented assigned
      | error failure =>
          rw [afterCall_of_error assigned]
          exact ih

/-- The state of a leaf that can be reached is legal. An assignment succeeds exactly if the state
with the field replaced is legal as well, and the leaf is one of numbers if the field is a flag;
the leaf then has that state. Otherwise the leaf is left as it was and the assignment is refused,
unless reading a pattern runs into a fault or a value fails when a flag asks it for its truth. -/
theorem assign_iff_legal (reachable : Reachable formats leaf) {field : LeafField}
    (documented : field.Documents value)
    : LeafState.Legal formats leaf.state
      ∧ ((∃ after, leaf.assign formats field value = .ok after)
        ↔ ∃ stored,
            field.Stores value stored
            ∧ LeafState.Legal formats (Function.update leaf.state field stored)
            ∧ (field.isFlag → leaf.type.isNumeric))
      ∧ (∀ after,
          leaf.assign formats field value = .ok after
          → ∃ stored,
              field.Stores value stored
              ∧ after.state = Function.update leaf.state field stored)
      ∧ ∀ failure,
          leaf.assign formats field value = .error failure
          → leaf.afterCall formats field value = leaf
            ∧ ((∃ refusal, failure = .refused refusal)
              ∨ (field = .pattern
                  ∧ ∃ label fault,
                      Label.ofValue? value = some label
                      ∧ Pattern.compile label.word = .error (.fault fault)
                      ∧ failure = .stopped fault)
              ∨ field.isFlag ∧ ∃ fault, value.truth = .error fault ∧ failure = .stopped fault)
    := by
  have sound := reachable.sound
  refine ⟨sound.legal, ⟨?_, ?_⟩, ?_, ?_⟩
  · rintro ⟨after, assigned⟩
    obtain ⟨-, stored, stores, legal, numeric, -⟩ := state_of_assign sound documented assigned
    exact ⟨stored, stores, legal, numeric⟩
  · rintro ⟨stored, stores, legal, numeric⟩
    exact assign_of_legal sound documented stores legal numeric
  · intro after assigned
    obtain ⟨-, stored, stores, -, -, same⟩ := state_of_assign sound documented assigned
    exact ⟨stored, stores, same⟩
  · intro failure failed
    refine ⟨afterCall_of_error failed, ?_⟩
    cases failure with
    | refused refusal => exact Or.inl ⟨refusal, rfl⟩
    | stopped fault =>
        rcases stopped_of_assign documented failed with ⟨rfl, label, text, unread⟩ | ⟨flag, asked⟩
        · exact Or.inr (Or.inl ⟨rfl, label, fault, text, unread, rfl⟩)
        · exact Or.inr (Or.inr ⟨flag, fault, asked, rfl⟩)

/-- A leaf of whole numbers made with a minimum is legal, and its type can be changed to the other
one of numbers. -/
theorem integers_with_minimum_to_numbers
    : LeafState.Legal .builtIn (state { type := .integer, minimum := some (.int 3) })
      ∧ ∃ stored,
          LeafField.type.Stores (.string "number") stored
          ∧ LeafState.Legal .builtIn
              (Function.update (state { type := .integer, minimum := some (.int 3) })
                LeafField.type stored)
          ∧ (LeafField.type.isFlag → SimpleType.integer.isNumeric) := by
  have made : Reachable .builtIn { type := .integer, minimum := some (.int 3) } :=
    @Reachable.made .builtIn [(.type, .string "integer"), (.minimum, .int 3)] _
      (by simp [LeafField.Documents]) rfl
  have specified := @assign_iff_legal .builtIn _ (.string "number") made .type trivial
  exact ⟨specified.1, specified.2.1.mp ⟨_, rfl⟩⟩

/-- A flag that does not hold is refused by a leaf of texts, although its state would be as legal as
before. -/
theorem not_assign_iff_update_legal
    : ¬ ∀ (formats : FormatRegistry) (leaf : Leaf) (field : LeafField) (value : Value),
        Reachable formats leaf
        → field.Documents value
        → ((∃ after, leaf.assign formats field value = .ok after)
          ↔ ∃ stored,
              field.Stores value stored
              ∧ LeafState.Legal formats (Function.update leaf.state field stored)) := by
  intro claimed
  have made : Reachable .builtIn { type := .string } :=
    @Reachable.made .builtIn [(.type, .string "string")] _ (by simp [LeafField.Documents]) rfl
  have unchanged : Function.update (state { type := .string }) LeafField.exclusiveMinimum
      (.bool false) = state { type := .string } :=
    Function.update_eq_self _ _
  obtain ⟨after, assigned⟩ :=
    (claimed .builtIn _ .exclusiveMinimum (.bool false) made trivial).mpr
      ⟨.bool false, ⟨false, rfl, rfl⟩, unchanged.symm ▸ made.sound.legal⟩
  nomatch assigned

end Leaf

end Assay
