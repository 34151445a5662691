import Assay.Proofs.Definition.Outcomes
import Assay.Proofs.Leaf.Assignment
import Assay.Proofs.Schema.Containers

/-! Arrays and objects as readings of their definitions: children have been built from the
definitions that stand where the children do, and everything else holds what a keyword says.
-/

namespace Assay.Definition
open Assembly

variable {setting : Setting} {members : Members}

-----------------------------------------------------------------------------------------
-- Arrays
-----------------------------------------------------------------------------------------

/-- An array holds what a definition says: its items have been built from the definition there,
and an absent size is zero. -/
structure ArrayReads (setting : Setting) (members : Members) (node : ArrayNode Schema) : Prop where
  items
    : (value? members .items = none ∧ node.items = .anything)
      ∨ ∃ definition,
          value? members .items = some definition ∧ (compile setting definition).Builds node.items
  minItems : (value? members .minItems).getD (.int 0) = .int (Int.ofNat node.minItems)
  maxItems : (value? members .maxItems).getD (.int 0) = .int (Int.ofNat node.maxItems)

theorem items_of_keyword {node after : ArrayNode Schema}
    (built : (assignItems members (childAt setting .items members) node).Builds after)
    : ∃ items,
        after = { node with items }
        ∧ ((value? members .items = none ∧ items = node.items)
          ∨ ∃ definition,
              value? members .items = some definition
              ∧ (compile setting definition).Builds items) := by
  rcases withKeyword_builds_iff.mp built with ⟨absent, rfl⟩ | ⟨definition, present, built⟩
  · exact ⟨node.items, rfl, Or.inl ⟨absent, rfl⟩⟩
  · rw [childAt_eq, present] at built
    split at built
    · exact absurd built not_refuse_builds
    · simp only [Option.map_some, bind_builds_iff, under_builds_iff, assigned_builds_iff] at built
      obtain ⟨schema, compiled, assigned⟩ := built
      obtain ⟨child, same, rfl⟩ := ArrayNode.setItems_eq_ok_iff.mp assigned
      obtain rfl := Slot.proper.inj same
      exact ⟨schema, rfl, Or.inr ⟨definition, present, compiled⟩⟩

/-- A size that is present is set, and one that is absent stays zero. -/
theorem size_of_keyword {keyword : Keyword} {node after : ArrayNode Schema}
    {set : Value → Change Failure (ArrayNode Schema) Unit}
    (put : Nat → ArrayNode Schema) (keeps : put 0 = node)
    (sets : ∀ value, (set value).made node = do return put (← ArrayNode.size keyword value))
    (built : (assignSize members keyword set node).Builds after)
    : ∃ size,
        after = put size ∧ (value? members keyword).getD (.int 0) = .int (Int.ofNat size) := by
  rcases withKeyword_builds_iff.mp built with ⟨absent, rfl⟩ | ⟨value, present, built⟩
  · exact ⟨0, keeps.symm, by rw [absent]; rfl⟩
  · split at built
    · rw [assigned_builds_iff, sets, bind_eq_ok_iff] at built
      obtain ⟨size, read, same⟩ := built
      refine ⟨size, (pure_eq_ok_iff.mp same).symm, ?_⟩
      rw [present, Option.getD_some, ArrayNode.size_eq_ok_iff.mp read]
    · exact absurd built not_refuse_builds

/-- What an array that has been built holds is what its definition says. -/
theorem arrayOf_reads {node : ArrayNode Schema}
    (built : (arrayOf members (childAt setting .items members)).Builds node)
    : ArrayReads setting members node := by
  simp only [arrayOf, bind_builds_iff] at built
  obtain ⟨_, withItems, _, withMinItems, withMaxItems⟩ := built
  obtain ⟨items, rfl, readItems⟩ := items_of_keyword withItems
  obtain ⟨minItems, rfl, readMinItems⟩ := size_of_keyword
    (fun minItems => { items, minItems }) rfl (fun _ => Change.made_write _ _) withMinItems
  obtain ⟨maxItems, rfl, readMaxItems⟩ := size_of_keyword
    (fun maxItems => { items, minItems, maxItems }) rfl (fun _ => Change.made_write _ _)
    withMaxItems
  exact ⟨readItems, readMinItems, readMaxItems⟩

-----------------------------------------------------------------------------------------
-- Objects
-----------------------------------------------------------------------------------------

/-- A definition requires a member if it lists the name, or if the definition of the member calls
itself required. -/
def Demands (members : Members) (name : String)
    : Prop :=
  (∃ names,
    value? members .required = some (.list names) ∧ ∃ value ∈ names, value.text? = some name)
  ∨ ∃ inner,
      (name, .object inner) ∈ definitionsIn members .properties
      ∧ value? inner .required = some (.bool true)

/-- What an object says of additional members is what a definition says of them. -/
inductive AdditionalReads (setting : Setting) : Option Value → Additional Schema → Prop
  | absent : AdditionalReads setting none .allow
  | allowed : AdditionalReads setting (some (.bool true)) .allow
  | denied : AdditionalReads setting (some (.bool false)) .deny
  | schema {definition child} (object : isObject definition)
    (built : (compile setting definition).Builds child)
    : AdditionalReads setting (some definition) (.schema child)

namespace AdditionalReads

variable {stated : Option Value} {additional : Additional Schema}

theorem deny_iff (reads : AdditionalReads setting stated additional)
    : additional.policy = .deny ↔ stated = some (.bool false) := by
  cases reads with
  | schema object => exact iff_of_false nofun fun same => by cases same; nomatch object
  | _ => simp

/-- There is a schema for additional members exactly where they are validated by one. -/
theorem agrees (reads : AdditionalReads setting stated additional)
    : additional.Agrees := by
  cases reads with
  | absent | allowed => exact Additional.agrees_allow
  | denied => exact Additional.agrees_deny
  | schema => exact Additional.agrees_schema

/-- A schema for additional members has been built from an object that stands there. -/
theorem definition_of_schema (reads : AdditionalReads setting stated additional) {child : Schema}
    (given : additional.schema? = some child)
    : ∃ definition,
        stated = some definition
        ∧ isObject definition
        ∧ (compile setting definition).Builds child := by
  cases reads with
  | schema object built =>
      obtain rfl := Option.some.inj given
      exact ⟨_, rfl, object, built⟩
  | _ => nomatch given

/-- An object that stands for additional members has been built to their schema. -/
theorem schema_of_definition (reads : AdditionalReads setting stated additional)
    {definition : Value} (present : stated = some definition) (object : isObject definition)
    : ∃ child,
        additional.policy = .validate
        ∧ additional.schema? = some child
        ∧ (compile setting definition).Builds child := by
  cases reads with
  | schema _ built =>
      obtain rfl := Option.some.inj present
      exact ⟨_, rfl, rfl, built⟩
  | absent => nomatch present
  | _ =>
      obtain rfl := Option.some.inj present
      nomatch object

end AdditionalReads

/-- An object holds what a definition says: each declared member and each pattern stands for one of
the definition, with a child that has been built from what stands there. -/
structure ObjectReads (setting : Setting) (members : Members) (node : ObjectNode Schema)
    : Prop where
  properties
    : List.Forall₂
        (fun entry property =>
          property.1 = .text entry.1 ∧ (compile setting entry.2).Builds property.2)
        (definitionsIn members .properties) node.properties
  required : ∀ name, (∃ label ∈ node.required, label.word = name) ↔ Demands members name
  patterns
    : List.Forall₂
        (fun entry child =>
          (∃ pattern, Pattern.compile entry.1 = .ok pattern ∧ child.1 = .proper pattern)
          ∧ (compile setting entry.2).Builds child.2)
        (definitionsIn members .patternProperties) node.patterns
  additional : AdditionalReads setting (value? members .additionalProperties) node.additional
  distinct : node.Distinct

theorem addProperties_builds {entries : Members} {node after : ObjectNode Schema}
    (built : (addProperties node (entries.map (entryOf setting))).Builds after)
    (distinct : node.Distinct)
    : after.Distinct
      ∧ ∃ properties,
          List.Forall₂
            (fun entry property =>
              property.1 = .text entry.1 ∧ (compile setting entry.2).Builds property.2)
            entries properties
          ∧ after = { node with properties := node.properties ++ properties } := by
  induction entries generalizing node with
  | nil =>
      obtain rfl := result_builds_iff.mp built
      exact ⟨distinct, [], .nil, by simp⟩
  | cons entry rest ih =>
      simp only [List.map_cons, addProperties, bind_builds_iff, under_builds_iff,
        assigned_builds_iff] at built
      obtain ⟨schema, compiled, next, added, built⟩ := built
      obtain ⟨distinct, properties, each, rfl⟩ :=
        ih built (ObjectNode.distinct_of_addProperty distinct added)
      obtain ⟨label, child, flag, named, -, same, told, rfl⟩ :=
        ObjectNode.addProperty_eq_ok_iff.mp added
      obtain rfl := Except.ok.inj told
      obtain ⟨text, -⟩ := ObjectNode.name?_eq_some_iff.mp named
      obtain rfl := Option.some.inj text
      obtain rfl := Slot.proper.inj same
      refine ⟨distinct, (.text entry.1, schema) :: properties, .cons ⟨rfl, compiled⟩ each, ?_⟩
      simp [entryOf]

theorem addPatterns_builds {entries : Members} {node after : ObjectNode Schema}
    (built : (addPatterns node (entries.map (entryOf setting))).Builds after)
    (distinct : node.Distinct)
    : after.Distinct
      ∧ ∃ patterns,
          List.Forall₂
            (fun entry child =>
              (∃ pattern, Pattern.compile entry.1 = .ok pattern ∧ child.1 = .proper pattern)
              ∧ (compile setting entry.2).Builds child.2)
            entries patterns
          ∧ after = { node with patterns := node.patterns ++ patterns } := by
  induction entries generalizing node with
  | nil =>
      obtain rfl := result_builds_iff.mp built
      exact ⟨distinct, [], .nil, by simp⟩
  | cons entry rest ih =>
      simp only [List.map_cons, addPatterns, bind_builds_iff, under_builds_iff,
        assigned_builds_iff] at built
      obtain ⟨schema, compiled, next, added, built⟩ := built
      obtain ⟨distinct, patterns, each, rfl⟩ :=
        ih built (ObjectNode.distinct_of_addPattern distinct added)
      obtain ⟨slot, child, read, same, rfl⟩ := ObjectNode.addPattern_eq_ok_iff.mp added
      obtain rfl := Slot.proper.inj same
      simp only [ObjectNode.namePattern, Value.text?, bind_eq_ok_iff, pure_eq_ok_iff,
        Leaf.readPattern_eq_ok_iff] at read
      obtain ⟨pattern, read, rfl⟩ := read
      refine ⟨distinct, (.proper pattern, schema) :: patterns,
        .cons ⟨⟨pattern, read, rfl⟩, compiled⟩ each, ?_⟩
      simp

theorem callsItselfRequired_iff {definition : Value}
    : callsItselfRequired definition
      ↔ ∃ inner, definition = .object inner ∧ value? inner .required = some (.bool true) := by
  unfold callsItselfRequired
  cases definition with
  | object members =>
      simp only [Value.object.injEq, exists_eq_left']
      cases value? members .required with
      | none => simp
      | some value => cases value <;> simp
  | _ => simp

/-- The names of the entries that call themselves required. -/
theorem mem_flagged_iff {entries : Members} {name : String}
    : (∃ value ∈ ((entries.map (entryOf setting)).filter (·.isRequired)).map
          (fun entry => Value.string entry.name),
        value.text? = some name)
      ↔ ∃ inner, (name, .object inner) ∈ entries ∧ value? inner .required = some (.bool true) := by
  simp only [List.mem_map, List.mem_filter]
  constructor
  · rintro ⟨-, ⟨-, ⟨⟨⟨name, definition⟩, member, rfl⟩, flagged⟩, rfl⟩, same⟩
    obtain rfl := Option.some.inj same
    obtain ⟨inner, rfl, required⟩ := callsItselfRequired_iff.mp flagged
    exact ⟨inner, member, required⟩
  · rintro ⟨inner, member, required⟩
    exact ⟨.string name, ⟨entryOf setting (name, .object inner), ⟨⟨_, member, rfl⟩,
      callsItselfRequired_iff.mpr ⟨inner, rfl, required⟩⟩, rfl⟩, rfl⟩

/-- The listed names are those of a list, and none of anything else. -/
theorem listedRequired_builds {names : List Value} (built : (listedRequired members).Builds names)
    {name : String}
    : (∃ value ∈ names, value.text? = some name)
      ↔ ∃ names,
          value? members .required = some (.list names)
          ∧ ∃ value ∈ names, value.text? = some name := by
  rcases withKeyword_builds_iff.mp built with ⟨absent, rfl⟩ | ⟨value, present, built⟩
  · simp [absent]
  · rw [present]
    split at built
    · obtain rfl := result_builds_iff.mp built
      simp [Value.list]
    · obtain rfl := result_builds_iff.mp built
      simp [Value.list]
    · obtain rfl := result_builds_iff.mp built
      simp [Value.list]
    · exact absurd built not_refuse_builds

theorem additional_of_keyword {node after : ObjectNode Schema}
    (allows : node.additional = .allow)
    (built
      : (assignAdditional members (childAt setting .additionalProperties members) node).Builds
          after)
    : ∃ additional,
        AdditionalReads setting (value? members .additionalProperties) additional
        ∧ after = { node with additional } := by
  rcases withKeyword_builds_iff.mp built with ⟨absent, rfl⟩ | ⟨value, present, built⟩
  · exact ⟨.allow, absent ▸ .absent, by rw [← allows]⟩
  · rw [childAt_eq, present] at built
    rw [present]
    split at built
    · rename_i allowed
      obtain ⟨additional, read, rfl⟩ :=
        ObjectNode.setAdditional_eq_ok_iff.mp (assigned_builds_iff.mp built)
      cases allowed with
      | false =>
          obtain rfl := Except.ok.inj read
          exact ⟨.deny, .denied, rfl⟩
      | true =>
          obtain rfl := Except.ok.inj read
          exact ⟨.allow, .allowed, rfl⟩
    · simp only [Option.map_some, bind_builds_iff, under_builds_iff, assigned_builds_iff] at built
      obtain ⟨schema, compiled, assigned⟩ := built
      obtain ⟨additional, read, rfl⟩ := ObjectNode.setAdditional_eq_ok_iff.mp assigned
      obtain rfl := Except.ok.inj read
      exact ⟨.schema schema, .schema rfl compiled, rfl⟩
    · exact absurd built not_refuse_builds

/-- What an object that has been built holds is what its definition says. -/
theorem objectOf_reads {node : ObjectNode Schema}
    (built
      : (objectOf members (entriesAt setting .properties members)
          (entriesAt setting .patternProperties members)
          (childAt setting .additionalProperties members)).Builds node)
    : ObjectReads setting members node := by
  simp only [objectOf, entriesAt_eq, bind_builds_iff, assigned_builds_iff] at built
  obtain ⟨-, -, _, withProperties, listed, withListed, _, withRequired, -, -, _, withPatterns,
    withAdditional⟩ := built
  obtain ⟨distinct, properties, readProperties, rfl⟩ :=
    addProperties_builds withProperties ObjectNode.distinct_initial
  replace distinct := ObjectNode.distinct_of_setRequired distinct withRequired
  obtain ⟨-, names, required, elements, readRequired, rfl⟩ :=
    ObjectNode.setRequired_eq_ok_iff.mp withRequired
  obtain rfl := Except.ok.inj elements
  obtain ⟨distinct, patterns, readPatterns, rfl⟩ := addPatterns_builds withPatterns distinct
  obtain ⟨additional, readAdditional, rfl⟩ := additional_of_keyword rfl withAdditional
  refine ⟨readProperties, fun name => ?_, readPatterns, readAdditional,
    distinct.declared, distinct.required⟩
  rw [(ObjectNode.requiredNames_spec readRequired List.nodup_nil).2 name, Demands,
    ← listedRequired_builds withListed, ← @mem_flagged_iff setting]
  simp only [List.not_mem_nil, false_and, exists_false, false_or, List.mem_append, or_and_right,
    exists_or]
  exact or_comm

end Assay.Definition
