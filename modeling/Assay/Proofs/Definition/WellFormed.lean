import Assay.Proofs.Definition.Leaves

/-! Well-formed definitions, read off the definitions alone: what each keyword may say, by the type
that a definition states, and that all definitions inside it are well formed too.
-/

namespace Assay.Definition
open Assembly

-----------------------------------------------------------------------------------------
-- Conditions on keywords
-----------------------------------------------------------------------------------------

/-- The value of a keyword, where a definition has it, is one that fits. -/
def Given (members : Members) (keyword : Keyword) (fits : Value → Prop)
    : Prop :=
  ∀ value, value? members keyword = some value → fits value

/-- A definition has none of some keywords. -/
def Lacks (members : Members) (keywords : List Keyword)
    : Prop :=
  ∀ keyword ∈ keywords, value? members keyword = none

section

variable {α : Type} {members : Members} {keyword : Keyword}

/-- What depends on a keyword succeeds unless the keyword is there and its use does not. -/
theorem withKeyword_succeeds_iff {unchanged : α} {use : Value → Assembly α}
    : (withKeyword members keyword unchanged use).Succeeds
      ↔ Given members keyword fun value => (use value).Succeeds := by
  unfold withKeyword Given
  cases value? members keyword with
  | none => simp
  | some given => simp

/-- A condition on a keyword may be replaced by an equivalent one. -/
theorem given_congr {fits other : Value → Prop} (same : ∀ value, fits value ↔ other value)
    : Given members keyword fits ↔ Given members keyword other :=
  forall_congr' fun value => imp_congr_right fun _ => same value

theorem rejectKeywords_succeeds_iff {typeName : String} {keywords : List Keyword}
    : (rejectKeywords members typeName keywords).Succeeds ↔ Lacks members keywords := by
  unfold rejectKeywords
  split
  · rename_i keyword found
    have present : (value? members keyword).isSome := by simpa using List.find?_some found
    refine iff_of_false not_refuse_succeeds fun lacks => ?_
    rw [lacks keyword (List.mem_of_find?_eq_some found)] at present
    nomatch present
  · rename_i none
    simp only [result_succeeds, Lacks, true_iff]
    simpa using none

end

-----------------------------------------------------------------------------------------
-- Well-formed definitions
-----------------------------------------------------------------------------------------

/-- A value is a text that can be read as a pattern. -/
def IsPattern (value : Value)
    : Prop :=
  ∃ source pattern, value.text? = some source ∧ Pattern.compile source = .ok pattern

/-- A value is a natural number. -/
def IsNatural (value : Value)
    : Prop :=
  ∃ size : Nat, value = .int size

/-- A value is a number of JSON. -/
def IsNumber (value : Value)
    : Prop :=
  ∃ number, value = .number number ∧ ¬number.isComplex

/-- A value names a format for a type, one that is registered if only such are taken. -/
def NamesFormat (setting : Setting) (type : SimpleType) (value : Value)
    : Prop :=
  ∃ name,
    value.text? = some name
    ∧ (setting.strictFormats → setting.formats.isRegistered name)
    ∧ setting.formats.isCompatible name type

/-- A value is a flag for a type: one that does not hold goes with every type, one that does only
with those of numbers. -/
def IsFlag (type : SimpleType) (value : Value)
    : Prop :=
  value = .null ∨ value = .bool false ∨ value = .bool true ∧ type.isNumeric

/-- A value is a text that can name a member. -/
def IsName (value : Value)
    : Prop :=
  ∃ name, value.text? = some name ∧ name ≠ ""

/-- What a definition may say in `required` when it is one of an object: nothing, whether the
object itself is required, or the names of its required members. -/
def IsRequirement (value : Value)
    : Prop :=
  value = .null
  ∨ (∃ flag, value = .bool flag)
  ∨ ∃ names, value = .list names ∧ ∀ name ∈ names, IsName name

/-- The keywords of a leaf of a type are well formed. Those of texts stand with the type of texts,
and bounds with the types of numbers. -/
structure LeafFormed (setting : Setting) (members : Members) (type : SimpleType) : Prop where
  pattern : Given members .pattern fun value => type = .string ∧ IsPattern value
  format : Given members .format (NamesFormat setting type)
  minLength : Given members .minLength fun value => type = .string ∧ IsNatural value
  maxLength : Given members .maxLength fun value => type = .string ∧ IsNatural value
  minimum : Given members .minimum fun value => type.isNumeric ∧ IsNumber value
  maximum : Given members .maximum fun value => type.isNumeric ∧ IsNumber value
  exclusiveMinimum : Given members .exclusiveMinimum (IsFlag type)
  exclusiveMaximum : Given members .exclusiveMaximum (IsFlag type)
  enumeration
    : Given members .enumeration fun value =>
        ∃ allowed, value = .list allowed ∧ type.Enumerates allowed

/-- The keywords of an array are well formed, whatever stands inside its items. -/
structure ArrayFormed (members : Members) : Prop where
  items : Given members .items fun value => isList value = false
  minItems : Given members .minItems IsNatural
  maxItems : Given members .maxItems IsNatural

/-- The keywords of an object are well formed, whatever stands inside its members. The names of the
declared members are distinct, as those in an object are. -/
structure ObjectFormed (members : Members) : Prop where
  properties : Given members .properties fun value => isObject value
  named : ∀ entry ∈ definitionsIn members .properties, entry.1 ≠ ""
  distinct : ((definitionsIn members .properties).map Prod.fst).Nodup
  required : Given members .required IsRequirement
  patternProperties : Given members .patternProperties fun value => isObject value
  patterns
    : ∀ entry ∈ definitionsIn members .patternProperties,
        ∃ pattern, Pattern.compile entry.1 = .ok pattern
  additional
    : Given members .additionalProperties fun value =>
        (∃ flag, value = .bool flag) ∨ isObject value

/-- A definition is well formed: it is an object without a reference, it has a type and says what
goes with it and nothing that only goes with others, and all definitions inside it are well
formed. -/
inductive WellFormed (setting : Setting) : Value → Prop
  | leaf {members type} (unreferenced : value? members .reference = none)
    (typed : typeWord? members = some (SimpleType.word type))
    (placed : Lacks members (Keyword.ofArrays ++ Keyword.ofObjects))
    (unlisted : Given members .required fun value => isList value = false)
    (formed : LeafFormed setting members type)
    : WellFormed setting (.object members)
  | array {members} (unreferenced : value? members .reference = none)
    (typed : typeWord? members = some SchemaKind.array.word)
    (placed : Lacks members (Keyword.ofLeaves ++ Keyword.ofObjects))
    (formed : ArrayFormed members)
    (items : ∀ inner, value? members .items = some inner → WellFormed setting inner)
    : WellFormed setting (.object members)
  | object {members} (unreferenced : value? members .reference = none)
    (typed : typeWord? members = some SchemaKind.object.word)
    (placed : Lacks members (Keyword.ofLeaves ++ Keyword.ofArrays))
    (formed : ObjectFormed members)
    (properties
      : ∀ entry ∈ definitionsIn members .properties, WellFormed setting entry.2)
    (patterns
      : ∀ entry ∈ definitionsIn members .patternProperties, WellFormed setting entry.2)
    (additional
      : ∀ inner,
          value? members .additionalProperties = some inner
          → isObject inner
          → WellFormed setting inner)
    : WellFormed setting (.object members)

end Assay.Definition
