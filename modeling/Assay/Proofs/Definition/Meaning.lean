import Assay.Proofs.Definition.Containers
import Assay.Proofs.Definition.Leaves
import Assay.Proofs.Schema.Conformance

/-! What a definition means by itself, read keyword by keyword, and that compiling keeps the
meaning: a document conforms to the schema built from a definition exactly if it satisfies the
definition.
-/

namespace Assay.Definition
open Assembly

-----------------------------------------------------------------------------------------
-- Satisfaction
-----------------------------------------------------------------------------------------

/-- A value satisfies the keywords of leaves: each of them that a definition has holds of the value
where it applies. The value is among those that are allowed if it equals one of them, or is one. -/
structure LeafHolds (formats : FormatRegistry) (members : Members) (type : SimpleType)
    (value : Value) : Prop where
  type : value.HasType type
  enumeration
    : ∀ allowed,
        value? members .enumeration = some (.list allowed)
        → ∃ member ∈ allowed, value.isOrEquals member = .ok true
  pattern
    : ∀ stated source pattern text,
        value? members .pattern = some stated
        → stated.text? = some source
        → Pattern.compile source = .ok pattern
        → value.text? = some text
        → pattern.occursIn text = .ok true
  maxLength
    : ∀ (limit : Int) text,
        value? members .maxLength = some (.int limit)
        → value.text? = some text
        → text.length ≤ limit
  minLength
    : ∀ (limit : Int) text,
        value? members .minLength = some (.int limit)
        → value.text? = some text
        → limit ≤ text.length
  minimum
    : ∀ bound number,
        value? members .minimum = some (.number bound)
        → value = .number number
        → number.NotBelow (isSet members .exclusiveMinimum) bound
  maximum
    : ∀ bound number,
        value? members .maximum = some (.number bound)
        → value = .number number
        → bound.NotBelow (isSet members .exclusiveMaximum) number
  format
    : ∀ stated name format,
        value? members .format = some stated
        → stated.text? = some name
        → formats.get? name = some format
        → format.check value = .ok true

/-- A definition describes a member that it declares, or whose name one of its patterns matches. -/
def Describes (members : Members) (name : String)
    : Prop :=
  (∃ definition, (name, definition) ∈ definitionsIn members .properties)
  ∨ ∃ source definition pattern,
      (source, definition) ∈ definitionsIn members .patternProperties
      ∧ Pattern.compile source = .ok pattern
      ∧ pattern.occursIn name = .ok true

/-- A document satisfies a definition, by the type that the definition states and the keywords that
go with it. Keywords that it does not have say nothing, and neither do any others that it has. -/
inductive Satisfies (formats : FormatRegistry) : Value → Value → Prop
  | leaf {members type value} (typed : typeWord? members = some (SimpleType.word type))
    (holds : LeafHolds formats members type value)
    : Satisfies formats (.object members) value
  | array {members form items} (typed : typeWord? members = some SchemaKind.array.word)
    (each
      : ∀ definition item,
          value? members .items = some definition
          → item ∈ items
          → Satisfies formats definition item)
    (least
      : ∀ limit : Int, value? members .minItems = some (.int limit) → limit ≤ items.length)
    (greatest
      : ∀ limit : Int,
          value? members .maxItems = some (.int limit) → limit ≠ 0 → items.length ≤ limit)
    : Satisfies formats (.object members) (.array form items)
  | object {members fields} (typed : typeWord? members = some SchemaKind.object.word)
    (declared
      : ∀ name definition value,
          (name, definition) ∈ definitionsIn members .properties
          → Value.member? fields name = some value
          → Satisfies formats definition value)
    (required : ∀ name, Demands members name → Value.member? fields name ≠ none)
    (patterns
      : ∀ source definition pattern name value,
          (source, definition) ∈ definitionsIn members .patternProperties
          → Pattern.compile source = .ok pattern
          → (name, value) ∈ fields
          → pattern.occursIn name = .ok true
          → Satisfies formats definition value)
    (additional
      : ∀ definition name value,
          value? members .additionalProperties = some definition
          → isObject definition
          → (name, value) ∈ fields
          → ¬ Describes members name
          → Satisfies formats definition value)
    (denied
      : ∀ name value,
          value? members .additionalProperties = some (.bool false)
          → (name, value) ∈ fields
          → Describes members name)
    : Satisfies formats (.object members) (.object fields)

-----------------------------------------------------------------------------------------
-- What has been built reads its definition
-----------------------------------------------------------------------------------------

variable {setting : Setting} {members : Members}

/-- A schema reads a definition as a leaf, an array or an object. -/
inductive Reads (setting : Setting) : Value → Schema → Prop
  | leaf {members leaf} (reads : LeafReads members leaf)
    : Reads setting (.object members) (.leaf setting.registry leaf)
  | array {members node} (typed : typeWord? members = some SchemaKind.array.word)
    (reads : ArrayReads setting members node)
    : Reads setting (.object members) (.array node)
  | object {members node} (typed : typeWord? members = some SchemaKind.object.word)
    (reads : ObjectReads setting members node)
    : Reads setting (.object members) (.object node)

theorem typeOf_builds {type : Value} (built : (typeOf members).Builds type)
    : isText type ∧ typeWord? members = type.text? := by
  unfold typeWord?
  rcases withKeyword_builds_iff.mp built with ⟨absent, rfl⟩ | ⟨value, present, built⟩
  · exact ⟨rfl, by rw [absent]; rfl⟩
  · split at built
    · rename_i text
      obtain rfl := result_builds_iff.mp built
      exact ⟨text, by rw [present]⟩
    · exact absurd built not_refuse_builds

/-- A type that displays as the word for a kind of containers is that word. -/
theorem text_of_display {type : Value} (text : isText type) {kind : SchemaKind}
    (displayed : type.display = kind.word)
    : type.text? = some kind.word := by
  cases type with
  | string word => exact congrArg some displayed
  | foreign thing =>
      cases thing with
      | policy policy =>
          refine absurd displayed ?_
          cases policy <;> cases kind <;> decide
      | _ => nomatch text
  | _ => nomatch text

/-- A schema that has been built reads its definition. -/
theorem compile_reads {definition : Value} {schema : Schema}
    (built : (compile setting definition).Builds schema)
    : Reads setting definition schema := by
  cases definition with
  | object members =>
      rw [compile] at built
      split at built
      · simp only [bind_builds_iff, not_refuse_builds, false_and, exists_false] at built
      · obtain ⟨-, -, built⟩ := bind_builds_iff.mp built
        obtain ⟨type, typed, built⟩ := bind_builds_iff.mp built
        obtain ⟨text, stated⟩ := typeOf_builds typed
        rw [caught_builds_iff] at built
        split at built
        · rename_i array
          simp only [bind_builds_iff, complete_builds_iff] at built
          obtain ⟨-, -, node, children, rfl⟩ := built
          exact .array (stated.trans (text_of_display text array)) (arrayOf_reads children)
        · split at built
          · rename_i object
            simp only [bind_builds_iff, complete_builds_iff] at built
            obtain ⟨-, -, node, children, rfl⟩ := built
            exact .object (stated.trans (text_of_display text object)) (objectOf_reads children)
          · simp only [bind_builds_iff, complete_builds_iff] at built
            obtain ⟨-, -, -, -, leaf, fields, rfl⟩ := built
            exact .leaf (leafOf_reads fields stated)
  | _ => exact absurd built not_refuse_builds

-----------------------------------------------------------------------------------------
-- Leaves mean what their definitions do
-----------------------------------------------------------------------------------------

theorem word_ne_container (type : SimpleType) {kind : SchemaKind} (container : kind ≠ .simple)
    : type.word ≠ kind.word := by
  cases kind with
  | simple => exact absurd rfl container
  | array => cases type <;> decide
  | object => cases type <;> decide

section Leaves

variable {formats : FormatRegistry} {leaf : Leaf} {value : Value}

/-- What stands at a keyword is held by a field that reads it. -/
theorem exists_of_reads {α β : Type} {reads : α → β → Prop} {stated : Option α} {field : Option β}
    (related : Option.Rel reads stated field) {a : α} (present : stated = some a)
    : ∃ b, field = some b ∧ reads a b := by
  cases related with
  | some read =>
      obtain rfl := Option.some.inj present
      exact ⟨_, rfl, read⟩
  | none => nomatch present

/-- What a field holds stands at the keyword that the field reads. -/
theorem exists_of_read {α β : Type} {reads : α → β → Prop} {stated : Option α} {field : Option β}
    (related : Option.Rel reads stated field) {b : β} (held : field = some b)
    : ∃ a, stated = some a ∧ reads a b := by
  cases related with
  | some read =>
      obtain rfl := Option.some.inj held
      exact ⟨_, rfl, read⟩
  | none => nomatch held

theorem holds_of_conforms (reads : LeafReads members leaf) (conforms : leaf.Conforms formats value)
    : LeafHolds formats members leaf.type value := by
  refine ⟨conforms.type, ?_, ?_, ?_, ?_, ?_, ?_, ?_⟩
  · intro allowed stated
    obtain ⟨held, set, same⟩ := exists_of_reads reads.enumeration stated
    obtain ⟨-, rfl⟩ := Value.array.inj same
    exact conforms.enumeration allowed set
  · intro stated source pattern text present named compiled written
    obtain ⟨slot, set, string, label, pattern', text', compiled', rfl⟩ :=
      exists_of_reads reads.pattern present
    have same : label.word = source := by
      rw [← Label.word_ofValue?, text'] at named
      exact Option.some.inj named
    obtain rfl := Except.ok.inj (compiled'.symm.trans (same ▸ compiled))
    exact conforms.pattern _ text string set written
  · intro limit text stated written
    obtain ⟨held, set, string, same⟩ := exists_of_reads reads.maxLength stated
    obtain rfl := Number.int.inj (Value.number.inj same)
    exact Int.ofNat_le.mpr (conforms.maxLength held text string set written)
  · intro limit text stated written
    obtain ⟨held, set, string, same⟩ := exists_of_reads reads.minLength stated
    obtain rfl := Number.int.inj (Value.number.inj same)
    exact Int.ofNat_le.mpr (conforms.minLength held text string set written)
  · intro bound number stated same
    obtain ⟨held, set, numeric, equal, -⟩ := exists_of_reads reads.minimum stated
    obtain rfl := Value.number.inj equal
    exact reads.exclusiveMinimum ▸ conforms.minimum bound number numeric set same
  · intro bound number stated same
    obtain ⟨held, set, numeric, equal, -⟩ := exists_of_reads reads.maximum stated
    obtain rfl := Value.number.inj equal
    exact reads.exclusiveMaximum ▸ conforms.maximum bound number numeric set same
  · intro stated name format present named found
    obtain ⟨slot, set, label, text, rfl⟩ := exists_of_reads reads.format present
    have same : label.word = name := by
      rw [← Label.word_ofValue?, text] at named
      exact Option.some.inj named
    exact conforms.format label set format (same ▸ found)

theorem conforms_of_holds (reads : LeafReads members leaf)
    (holds : LeafHolds formats members leaf.type value)
    : leaf.Conforms formats value := by
  refine ⟨holds.type, ?_, ?_, ?_, ?_, ?_, ?_, ?_⟩
  · intro allowed set
    obtain ⟨stated, present, rfl⟩ := exists_of_read reads.enumeration set
    exact holds.enumeration allowed present
  · intro labelled text string set written
    obtain ⟨stated, present, -, label, pattern, read, compiled, same⟩ :=
      exists_of_read reads.pattern set
    obtain rfl := Slot.proper.inj same
    have named : stated.text? = some label.word := by
      rw [← Label.word_ofValue?, read, Option.map_some]
    exact holds.pattern stated label.word pattern text present named compiled written
  · intro limit text string set written
    obtain ⟨stated, present, -, rfl⟩ := exists_of_read reads.maxLength set
    exact Int.ofNat_le.mp (holds.maxLength _ text present written)
  · intro limit text string set written
    obtain ⟨stated, present, -, rfl⟩ := exists_of_read reads.minLength set
    exact Int.ofNat_le.mp (holds.minLength _ text present written)
  · intro bound number numeric set same
    obtain ⟨stated, present, -, rfl, -⟩ := exists_of_read reads.minimum set
    exact reads.exclusiveMinimum ▸ holds.minimum bound number present same
  · intro bound number numeric set same
    obtain ⟨stated, present, -, rfl, -⟩ := exists_of_read reads.maximum set
    exact reads.exclusiveMaximum ▸ holds.maximum bound number present same
  · intro label set format found
    obtain ⟨stated, present, label', text, same⟩ := exists_of_read reads.format set
    obtain rfl := Slot.proper.inj same
    have named : stated.text? = some label.word := by
      rw [← Label.word_ofValue?, text, Option.map_some]
    exact holds.format stated label.word format present named found

end Leaves

-----------------------------------------------------------------------------------------
-- Containers mean what their definitions do
-----------------------------------------------------------------------------------------

section Containers

variable {formats : Registries} {value : Value}

/-- Whatever is built from a definition is conformed to exactly where the definition is
satisfied. -/
def Agrees (setting : Setting) (formats : Registries) (definition : Value)
    : Prop :=
  ∀ schema value,
    (compile setting definition).Builds schema
    → (schema.Conforms formats value ↔ Satisfies (formats setting.registry) definition value)

theorem anything_conforms (formats : Registries) (value : Value)
    : Schema.anything.Conforms formats value :=
  .leaf {
    type := .any
    enumeration := fun _ set => nomatch set
    pattern := fun _ _ string => nomatch string
    maxLength := fun _ _ string => nomatch string
    minLength := fun _ _ string => nomatch string
    minimum := fun _ _ numeric => nomatch numeric
    maximum := fun _ _ numeric => nomatch numeric
    format := fun _ set => nomatch set
  }

/-- A definition of a container is satisfied as one, and not as a leaf. -/
theorem not_leaf_of_container {type : SimpleType} {kind : SchemaKind} (container : kind ≠ .simple)
    (typed : typeWord? members = some kind.word)
    : typeWord? members ≠ some type.word :=
  fun leaf => word_ne_container type container (Option.some.inj (leaf.symm.trans typed))

/-- A size that is stated is the one that is held, and none is held as zero. -/
theorem size_of_stated {keyword : Keyword} {size : Nat}
    (held : (value? members keyword).getD (.int 0) = .int (Int.ofNat size))
    : (∀ limit : Int, value? members keyword = some (.int limit) → limit = size)
      ∧ (size = 0 ∨ value? members keyword = some (.int size)) := by
  cases stated : value? members keyword with
  | none =>
      rw [stated] at held
      have zero := Number.int.inj (Value.number.inj held)
      exact ⟨nofun, Or.inl (Int.ofNat.inj zero).symm⟩
  | some value =>
      rw [stated, Option.getD_some] at held
      refine ⟨fun limit same => ?_, Or.inr (congrArg some held)⟩
      exact Number.int.inj (Value.number.inj ((Option.some.inj same).symm.trans held))

theorem array_agrees {node : ArrayNode Schema} (reads : ArrayReads setting members node)
    (typed : typeWord? members = some SchemaKind.array.word)
    (inner : ∀ definition, Inside definition (.object members) → Agrees setting formats definition)
    : Schema.Conforms formats (.array node) value
      ↔ Satisfies (formats setting.registry) (.object members) value := by
  obtain ⟨statedMin, heldMin⟩ := size_of_stated reads.minItems
  obtain ⟨statedMax, heldMax⟩ := size_of_stated reads.maxItems
  constructor
  · intro conforms
    cases conforms with
    | array least greatest each =>
        refine .array typed ?_ ?_ ?_
        · intro definition item stated member
          rcases reads.items with ⟨absent, -⟩ | ⟨definition', stated', built⟩
          · nomatch absent.symm.trans stated
          · obtain rfl := Option.some.inj (stated.symm.trans stated')
            exact (inner definition (.child stated) _ item built).mp (each item member)
        · intro limit stated
          obtain rfl := statedMin limit stated
          exact Int.ofNat_le.mpr least
        · intro limit stated bounded
          obtain rfl := statedMax limit stated
          exact Int.ofNat_le.mpr (greatest fun zero => bounded (by rw [zero]; rfl))
  · intro satisfies
    cases satisfies with
    | leaf word =>
        have container : SchemaKind.array ≠ .simple := nofun
        exact absurd word (not_leaf_of_container container typed)
    | object word => exact absurd (word.symm.trans typed) (by decide)
    | array _ each least greatest =>
        refine .array ?_ ?_ ?_
        · rcases heldMin with zero | stated
          · exact zero ▸ Nat.zero_le _
          · exact Int.ofNat_le.mp (least _ stated)
        · intro bounded
          rcases heldMax with zero | stated
          · exact absurd zero bounded
          · exact Int.ofNat_le.mp (greatest _ stated fun zero => bounded (Int.ofNat.inj zero))
        · intro item member
          rcases reads.items with ⟨-, anything⟩ | ⟨definition, stated, built⟩
          · exact anything ▸ anything_conforms formats item
          · exact (inner definition (.child stated) _ item built).mpr
              (each definition item stated member)

/-- What stands in one list stands for something in another one that goes with it. -/
theorem exists_of_forall₂ {α β : Type} {related : α → β → Prop} {first : List α} {second : List β}
    (goes : List.Forall₂ related first second)
    : (∀ a ∈ first, ∃ b ∈ second, related a b) ∧ ∀ b ∈ second, ∃ a ∈ first, related a b := by
  induction goes with
  | nil => exact ⟨nofun, nofun⟩
  | cons here _ ih =>
      refine ⟨List.forall_mem_cons.mpr ⟨⟨_, List.mem_cons_self, here⟩, fun a member => ?_⟩,
        List.forall_mem_cons.mpr ⟨⟨_, List.mem_cons_self, here⟩, fun b member => ?_⟩⟩
      · obtain ⟨b, there, goes⟩ := ih.1 a member
        exact ⟨b, List.mem_cons_of_mem _ there, goes⟩
      · obtain ⟨a, there, goes⟩ := ih.2 b member
        exact ⟨a, List.mem_cons_of_mem _ there, goes⟩

/-- A node covers what its definition describes. -/
theorem covers_iff_describes {node : ObjectNode Schema} (reads : ObjectReads setting members node)
    (name : String)
    : node.Covers name ↔ Describes members name := by
  obtain ⟨declared, declares⟩ := exists_of_forall₂ reads.properties
  obtain ⟨listed, lists⟩ := exists_of_forall₂ reads.patterns
  constructor
  · rintro (⟨property, member, rfl⟩ | ⟨child, member, hit⟩)
    · obtain ⟨⟨name, definition⟩, stated, label, -⟩ := declares property member
      exact Or.inl ⟨definition, by rwa [label]⟩
    · obtain ⟨⟨source, definition⟩, stated, ⟨pattern, compiled, same⟩, -⟩ := lists child member
      exact Or.inr ⟨source, definition, pattern, stated, compiled, by rwa [same] at hit⟩
  · rintro (⟨definition, stated⟩ | ⟨source, definition, pattern, stated, compiled, hit⟩)
    · obtain ⟨property, member, label, -⟩ := declared _ stated
      exact Or.inl ⟨property, member, by rw [label]; rfl⟩
    · obtain ⟨child, member, ⟨pattern', compiled', same⟩, -⟩ := listed _ stated
      obtain rfl := Except.ok.inj (compiled'.symm.trans compiled)
      exact Or.inr ⟨child, member, by rw [same]; exact hit⟩

theorem object_agrees {node : ObjectNode Schema} (reads : ObjectReads setting members node)
    (typed : typeWord? members = some SchemaKind.object.word)
    (inner : ∀ definition, Inside definition (.object members) → Agrees setting formats definition)
    : Schema.Conforms formats (.object node) value
      ↔ Satisfies (formats setting.registry) (.object members) value := by
  obtain ⟨declared, declares⟩ := exists_of_forall₂ reads.properties
  obtain ⟨listed, lists⟩ := exists_of_forall₂ reads.patterns
  constructor
  · intro conforms
    cases conforms with
    | object properties required patterns additional denied =>
        refine .object typed ?_ ?_ ?_ ?_ ?_
        · intro name definition value stated present
          obtain ⟨⟨label, child⟩, member, rfl, built⟩ := declared _ stated
          exact (inner definition (.entry stated) child value built).mp
            (properties _ child value member present)
        · intro name demanded
          obtain ⟨label, member, rfl⟩ := (reads.required name).mpr demanded
          exact required label member
        · intro source definition pattern name value stated compiled present hit
          obtain ⟨⟨slot, child⟩, member, ⟨pattern', compiled', rfl⟩, built⟩ := listed _ stated
          obtain rfl := Except.ok.inj (compiled'.symm.trans compiled)
          exact (inner definition (.entry stated) child value built).mp
            (patterns _ child name value member present hit)
        · intro definition name value stated object present undescribed
          obtain ⟨child, validates, given, built⟩ :=
            reads.additional.schema_of_definition stated object
          exact (inner definition (.child stated) child value built).mp
            (additional child name value (Additional.eq_schema validates given) present
              (mt (covers_iff_describes reads name).mp undescribed))
        · intro name value stated present
          exact (covers_iff_describes reads name).mp
            (denied name value (reads.additional.deny_iff.mpr stated) present)
  · intro satisfies
    cases satisfies with
    | leaf word =>
        have container : SchemaKind.object ≠ .simple := nofun
        exact absurd word (not_leaf_of_container container typed)
    | array word => exact absurd (word.symm.trans typed) (by decide)
    | object _ properties required patterns additional denied =>
        refine .object ?_ ?_ ?_ ?_ ?_
        · intro label child value member present
          obtain ⟨⟨name, definition⟩, stated, rfl, built⟩ := declares _ member
          exact (inner definition (.entry stated) child value built).mpr
            (properties name definition value stated present)
        · exact fun label member =>
            required label.word ((reads.required label.word).mp ⟨label, member, rfl⟩)
        · intro slot child name value member present hit
          obtain ⟨⟨source, definition⟩, stated, ⟨pattern, compiled, rfl⟩, built⟩ := lists _ member
          exact (inner definition (.entry stated) child value built).mpr
            (patterns source definition pattern name value stated compiled present hit)
        · intro child name value given present uncovered
          obtain ⟨definition, stated, object, built⟩ :=
            reads.additional.definition_of_schema (congrArg Additional.schema? given)
          exact (inner definition (.child stated) child value built).mpr
            (additional definition name value stated object present
              (mt (covers_iff_describes reads name).mpr uncovered))
        · exact fun name value deny present =>
            (covers_iff_describes reads name).mpr
              (denied name value (reads.additional.deny_iff.mp deny) present)

/-- Whatever is built from a definition agrees with it, by induction on the definitions inside. -/
theorem agrees (setting : Setting) (formats : Registries) (definition : Value)
    : Agrees setting formats definition := by
  induction definition using insideInduction with
  | step definition inner =>
      intro schema value built
      cases compile_reads built with
      | leaf reads =>
          constructor
          · rintro ⟨conforms⟩
            exact .leaf reads.type (holds_of_conforms reads conforms)
          · intro satisfies
            cases satisfies with
            | leaf typed holds =>
                obtain rfl := SimpleType.word_injective
                  (Option.some.inj (typed.symm.trans reads.type))
                exact .leaf (conforms_of_holds reads holds)
            | array typed =>
                have container : SchemaKind.array ≠ .simple := nofun
                exact absurd reads.type (not_leaf_of_container container typed)
            | object typed =>
                have container : SchemaKind.object ≠ .simple := nofun
                exact absurd reads.type (not_leaf_of_container container typed)
      | array typed reads => exact array_agrees reads typed inner
      | object typed reads => exact object_agrees reads typed inner

end Containers

-----------------------------------------------------------------------------------------
-- Compiling keeps the meaning
-----------------------------------------------------------------------------------------

/-- A document is checked without violations by what a definition compiles to exactly if it
satisfies the definition. -/
theorem check_eq_nil_iff_satisfies {setting : Setting} {formats : Registries} {definition : Value}
    {schema : Schema} {document : Value} {violations : List Violation}
    (compiled : (compile setting definition).outcome = .ok schema)
    (returned : schema.check formats document = .ok violations)
    : violations = [] ↔ Satisfies (formats setting.registry) definition document := by
  rw [← agrees setting formats definition schema document compiled]
  exact schema.check_settles document violations returned

/-- A definition with a member that calls itself required is satisfied by a document that has it. -/
theorem satisfied_by_member_that_is_required
    : Satisfies .builtIn
        (.object
          [("type", .string "object"),
            ("properties",
              .object
                [("size", .object [("type", .string "integer"), ("required", .bool true)])]),
            ("additionalProperties", .bool false)])
        (.object [("size", .int 3)]) :=
  (@check_eq_nil_iff_satisfies ⟨true, 0, .builtIn⟩ (fun _ => .builtIn) _
    (.object
      { properties := [(.text "size", .leaf 0 { type := .integer })]
        required := [.text "size"]
        additional := .deny })
    _ [] rfl rfl).mp rfl

end Assay.Definition
