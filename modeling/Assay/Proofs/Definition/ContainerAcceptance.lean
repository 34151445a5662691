import Assay.Proofs.Definition.Containers
import Assay.Proofs.Definition.WellFormed

/-! When a definition is given an array or an object: its own keywords are well formed, and what
stands inside it compiles.
-/

namespace Assay.Definition
open Assembly

variable {β : Type} {setting : Setting} {members : Members} {keyword : Keyword}

-----------------------------------------------------------------------------------------
-- Arrays
-----------------------------------------------------------------------------------------

/-- The items are assigned where they are no list and compile. -/
theorem assignItems_succeeds_iff {node : ArrayNode Schema}
    : (assignItems members (childAt setting .items members) node).Succeeds
      ↔ Given members .items fun value =>
          isList value = false ∧ (compile setting value).Succeeds := by
  unfold assignItems
  rw [withKeyword_succeeds_iff]
  refine forall_congr' fun value => imp_congr_right fun present => ?_
  rw [childAt_eq, present, Option.map_some]
  have assigns
      : ∀ schema : Schema,
          (assigned ((ArrayNode.setItems (.proper schema)).made node)).Succeeds :=
    fun schema => assigned_succeeds_iff.mpr
      ⟨_, ArrayNode.setItems_eq_ok_iff.mpr ⟨schema, rfl, rfl⟩⟩
  by_cases list : isList value
  · simp [list]
  · simp [list, under_then_succeeds_iff assigns]

theorem assignSize_succeeds_iff {node : ArrayNode Schema}
    {set : Value → Change Failure (ArrayNode Schema) Unit} (put : Nat → ArrayNode Schema)
    (sets : ∀ value, (set value).made node = do return put (← ArrayNode.size keyword value))
    : (assignSize members keyword set node).Succeeds ↔ Given members keyword IsNatural := by
  unfold assignSize
  rw [withKeyword_succeeds_iff]
  refine given_congr fun value => ?_
  constructor
  · intro succeeds
    split at succeeds
    · obtain ⟨after, assigned⟩ := assigned_succeeds_iff.mp succeeds
      rw [sets, bind_pure_eq_ok_iff] at assigned
      obtain ⟨size, read, -⟩ := assigned
      exact ⟨size, ArrayNode.size_eq_ok_iff.mp read⟩
    · exact absurd succeeds not_refuse_succeeds
  · rintro ⟨size, rfl⟩
    refine assigned_succeeds_iff.mpr ⟨put size, ?_⟩
    rw [sets, bind_pure_eq_ok_iff]
    exact ⟨size, ArrayNode.size_eq_ok_iff.mpr rfl, rfl⟩

/-- A definition is given an array where its keywords are those of an array and its items
compile. -/
theorem arrayOf_succeeds_iff
    : (arrayOf members (childAt setting .items members)).Succeeds
      ↔ ArrayFormed members
        ∧ Given members .items fun value => (compile setting value).Succeeds := by
  have steps
      : (arrayOf members (childAt setting .items members)).Succeeds
        ↔ (Given members .items fun value =>
            isList value = false ∧ (compile setting value).Succeeds)
          ∧ Given members .minItems IsNatural
          ∧ Given members .maxItems IsNatural := by
    refine bind_succeeds_iff_and assignItems_succeeds_iff fun node => ?_
    refine bind_succeeds_iff_and
      (assignSize_succeeds_iff (fun minItems => { node with minItems }) fun value =>
        Change.made_write _ _)
      fun node => ?_
    exact assignSize_succeeds_iff (fun maxItems => { node with maxItems }) fun value =>
      Change.made_write _ _
  rw [steps]
  constructor
  · rintro ⟨items, minItems, maxItems⟩
    exact ⟨⟨fun value present => (items value present).1, minItems, maxItems⟩,
      fun value present => (items value present).2⟩
  · rintro ⟨⟨items, minItems, maxItems⟩, compiled⟩
    exact ⟨fun value present => ⟨items value present, compiled value present⟩, minItems, maxItems⟩

-----------------------------------------------------------------------------------------
-- Objects
-----------------------------------------------------------------------------------------

theorem expectObject_succeeds_iff
    : (expectObject members keyword).Succeeds
      ↔ Given members keyword fun value => isObject value := by
  unfold expectObject
  rw [withKeyword_succeeds_iff]
  refine given_congr fun value => ?_
  cases isObject value <;> simp

theorem name_eq_some_iff {value : Value}
    : (∃ label, ObjectNode.name? value = some label) ↔ IsName value := by
  simp only [ObjectNode.name?_eq_some_iff, IsName, text_eq_some_iff]
  constructor
  · rintro ⟨label, found, nonempty⟩
    refine ⟨label.word, ⟨label, found, rfl⟩, ?_⟩
    rintro same
    simp [same] at nonempty
  · rintro ⟨word, ⟨label, found, rfl⟩, nonempty⟩
    exact ⟨label, found, by simpa using nonempty⟩

/-- A schema is declared with a name that is not empty and not declared yet. -/
theorem addProperty_text_eq_ok_iff {node after : ObjectNode Schema} {name : String}
    {schema : Schema}
    : (ObjectNode.addProperty (.string name) (.proper schema) (.bool false)).made node = .ok after
      ↔ name ≠ ""
        ∧ node.declares name = false
        ∧ after = { node with properties := node.properties ++ [(.text name, schema)] } := by
  rw [ObjectNode.addProperty_eq_ok_iff]
  simp only [ObjectNode.name?_eq_some_iff, Label.ofValue?, Option.some.injEq, Slot.proper.injEq]
  constructor
  · rintro ⟨label, child, flag, ⟨rfl, nonempty⟩, undeclared, rfl, told, rfl⟩
    obtain rfl := Except.ok.inj told
    refine ⟨fun empty => ?_, undeclared, rfl⟩
    simp [Label.word, empty] at nonempty
  · rintro ⟨nonempty, undeclared, rfl⟩
    exact ⟨.text name, schema, false, ⟨rfl, by simpa [Label.word] using nonempty⟩, undeclared, rfl,
      rfl, rfl⟩

/-- Entries are declared where each of them compiles and has a name, one that neither another one
has nor what is declared already. By induction on the entries, as each one declared is in the way
of those behind it. -/
theorem addProperties_succeeds_iff {entries : Members} {node : ObjectNode Schema}
    : (addProperties node (entries.map (entryOf setting))).Succeeds
      ↔ (∀ entry ∈ entries, (compile setting entry.2).Succeeds)
        ∧ (∀ entry ∈ entries, entry.1 ≠ "")
        ∧ (entries.map Prod.fst).Nodup
        ∧ ∀ entry ∈ entries, node.declares entry.1 = false := by
  induction entries generalizing node with
  | nil => simp [addProperties]
  | cons entry rest ih =>
      obtain ⟨name, definition⟩ := entry
      have declares {schema : Schema} {other : String}
          : ({ node with
                properties := node.properties ++ [(Label.text name, schema)] }).declares other
              = false
            ↔ node.declares other = false ∧ other ≠ name := by
        simp only [ObjectNode.declares, List.any_append, Bool.or_eq_false_iff, List.any_cons,
          List.any_nil, Bool.or_false]
        exact and_congr_right fun _ => beq_eq_false_iff_ne.trans ne_comm
      simp only [List.map_cons, addProperties, bind_succeeds_iff, under_builds_iff,
        assigned_builds_iff, entryOf, addProperty_text_eq_ok_iff, List.forall_mem_cons,
        List.nodup_cons, List.mem_map]
      constructor
      · rintro ⟨schema, compiled, after, ⟨nonempty, undeclared, rfl⟩, succeeds⟩
        obtain ⟨each, named, distinct, free⟩ := ih.mp succeeds
        refine ⟨⟨⟨schema, compiled⟩, each⟩, ⟨nonempty, named⟩, ⟨?_, distinct⟩, undeclared,
          fun entry member => (declares.mp (free entry member)).1⟩
        rintro ⟨entry, member, same⟩
        exact (declares.mp (free entry member)).2 same
      · rintro ⟨⟨⟨schema, compiled⟩, each⟩, ⟨nonempty, named⟩, ⟨fresh, distinct⟩, undeclared, free⟩
        refine ⟨schema, compiled, _, ⟨nonempty, undeclared, rfl⟩,
          ih.mpr ⟨each, named, distinct, fun entry member => ?_⟩⟩
        exact declares.mpr ⟨free entry member, fun same => fresh ⟨entry, member, same⟩⟩

theorem addPatterns_succeeds_iff {entries : Members} {node : ObjectNode Schema}
    : (addPatterns node (entries.map (entryOf setting))).Succeeds
      ↔ (∀ entry ∈ entries, (compile setting entry.2).Succeeds)
        ∧ ∀ entry ∈ entries, ∃ pattern, Pattern.compile entry.1 = .ok pattern := by
  induction entries generalizing node with
  | nil => simp [addPatterns]
  | cons entry rest ih =>
      obtain ⟨source, definition⟩ := entry
      have adds {schema : Schema} {after : ObjectNode Schema}
          : (ObjectNode.addPattern (.string source) (.proper schema)).made node = .ok after
            ↔ ∃ pattern,
                Pattern.compile source = .ok pattern
                ∧ after =
                    { node with patterns := node.patterns ++ [(.proper pattern, schema)] } := by
        simp only [ObjectNode.addPattern_eq_ok_iff, ObjectNode.namePattern, Value.text?,
          bind_eq_ok_iff, pure_eq_ok_iff, Leaf.readPattern_eq_ok_iff, Slot.proper.injEq]
        constructor
        · rintro ⟨slot, child, ⟨pattern, compiled, rfl⟩, rfl, rfl⟩
          exact ⟨pattern, compiled, rfl⟩
        · rintro ⟨pattern, compiled, rfl⟩
          exact ⟨_, schema, ⟨pattern, compiled, rfl⟩, rfl, rfl⟩
      simp only [List.map_cons, addPatterns, bind_succeeds_iff, under_builds_iff,
        assigned_builds_iff, entryOf, adds, List.forall_mem_cons]
      constructor
      · rintro ⟨schema, compiled, after, ⟨pattern, read, rfl⟩, succeeds⟩
        obtain ⟨each, patterns⟩ := ih.mp succeeds
        exact ⟨⟨⟨schema, compiled⟩, each⟩, ⟨pattern, read⟩, patterns⟩
      · rintro ⟨⟨⟨schema, compiled⟩, each⟩, ⟨pattern, read⟩, patterns⟩
        exact ⟨schema, compiled, _, ⟨pattern, read, rfl⟩, ih.mpr ⟨each, patterns⟩⟩

theorem requiredNames_succeeds_iff {names : List Label} {values : List Value}
    : (∃ required, ObjectNode.requiredNames names values = .ok required)
      ↔ ∀ value ∈ values, IsName value := by
  induction values generalizing names with
  | nil => simp [ObjectNode.requiredNames]
  | cons value rest ih =>
      rw [ObjectNode.requiredNames, List.forall_mem_cons, ← name_eq_some_iff]
      cases ObjectNode.name? value with
      | none => simp
      | some label => simp [ih]

/-- The names that a definition lists can all name members exactly if it states a requirement. -/
theorem listed_isName_iff
    : (∃ names, (listedRequired members).Builds names ∧ ∀ value ∈ names, IsName value)
      ↔ Given members .required IsRequirement := by
  constructor
  · rintro ⟨names, built, named⟩ value present
    rcases withKeyword_builds_iff.mp built with ⟨absent, -⟩ | ⟨given, found, built⟩
    · nomatch absent.symm.trans present
    · obtain rfl := Option.some.inj (found.symm.trans present)
      split at built
      · obtain rfl := result_builds_iff.mp built
        exact Or.inr (Or.inr ⟨_, rfl, named⟩)
      · exact Or.inl rfl
      · exact Or.inr (Or.inl ⟨_, rfl⟩)
      · exact absurd built not_refuse_builds
  · intro given
    cases present : value? members .required with
    | none =>
        exact ⟨[], withKeyword_builds_iff.mpr (Or.inl ⟨present, rfl⟩), by simp⟩
    | some value =>
        rcases given value present with rfl | ⟨flag, rfl⟩ | ⟨names, rfl, named⟩
        · exact ⟨[], withKeyword_builds_iff.mpr (Or.inr ⟨_, present, rfl⟩), by simp⟩
        · exact ⟨[], withKeyword_builds_iff.mpr (Or.inr ⟨_, present, rfl⟩), by simp⟩
        · exact ⟨names, withKeyword_builds_iff.mpr (Or.inr ⟨_, present, rfl⟩), named⟩

/-- Names that are required are assigned where each of them can name a member. -/
theorem setRequired_succeeds_iff {node : ObjectNode Schema} {names : List Value}
    : (assigned ((ObjectNode.setRequired (.list names)).made node)).Succeeds
      ↔ ∀ value ∈ names, IsName value := by
  rw [assigned_succeeds_iff, ← requiredNames_succeeds_iff]
  simp only [ObjectNode.setRequired_eq_ok_iff]
  constructor
  · rintro ⟨after, -, names, required, elements, listed, -⟩
    obtain rfl := Except.ok.inj elements
    exact ⟨required, listed⟩
  · rintro ⟨required, listed⟩
    exact ⟨_, rfl, names, required, rfl, listed, rfl⟩

/-- A definition's requirement is listed and assigned behind names that can be, whatever the node
has been given before. -/
theorem required_then_iff {flagged : List Value} (named : ∀ value ∈ flagged, IsName value)
    {node : ObjectNode Schema} {next : ObjectNode Schema → Assembly β} {rest : Prop}
    (later : ∀ node, (next node).Succeeds ↔ rest)
    : (do
        let listed ← listedRequired members
        let node ← assigned ((ObjectNode.setRequired (.list (flagged ++ listed))).made node)
        next node).Succeeds
      ↔ Given members .required IsRequirement ∧ rest := by
  have assigns (listed : List Value)
      : (do
          let node ← assigned ((ObjectNode.setRequired (.list (flagged ++ listed))).made node)
          next node).Succeeds
        ↔ (∀ value ∈ listed, IsName value) ∧ rest := by
    refine bind_succeeds_iff_and ?_ later
    rw [setRequired_succeeds_iff, List.forall_mem_append]
    exact and_iff_right named
  rw [bind_succeeds_iff, ← listed_isName_iff]
  simp only [assigns, ← and_assoc, exists_and_right]

theorem assignAdditional_succeeds_iff {node : ObjectNode Schema}
    : (assignAdditional members (childAt setting .additionalProperties members) node).Succeeds
      ↔ Given members .additionalProperties fun value =>
          (∃ flag, value = .bool flag) ∨ isObject value ∧ (compile setting value).Succeeds := by
  unfold assignAdditional
  rw [withKeyword_succeeds_iff]
  refine forall_congr' fun value => imp_congr_right fun present => ?_
  rw [childAt_eq, present, Option.map_some]
  have assigns : ∀ schema : Schema,
      (assigned ((ObjectNode.setAdditional (.proper schema)).made node)).Succeeds :=
    fun schema => assigned_succeeds_iff.mpr
      ⟨_, ObjectNode.setAdditional_eq_ok_iff.mpr ⟨.schema schema, rfl, rfl⟩⟩
  cases value with
  | bool allowed =>
      refine iff_of_true (assigned_succeeds_iff.mpr ?_) (Or.inl ⟨allowed, rfl⟩)
      cases allowed with
      | false => exact ⟨_, ObjectNode.setAdditional_eq_ok_iff.mpr ⟨.deny, rfl, rfl⟩⟩
      | true => exact ⟨_, ObjectNode.setAdditional_eq_ok_iff.mpr ⟨.allow, rfl, rfl⟩⟩
  | object inner => simp [isObject, under_then_succeeds_iff assigns]
  | _ => simp [isObject]

/-- The names of entries that call themselves required can name members if all names of entries
can. -/
theorem flagged_isName {entries : Members} (named : ∀ entry ∈ entries, entry.1 ≠ "")
    : ∀ value
        ∈ ((entries.map (entryOf setting)).filter (·.isRequired)).map
            fun entry => Value.string entry.name,
        IsName value := by
  intro value member
  simp only [List.mem_map, List.mem_filter] at member
  obtain ⟨-, ⟨⟨entry, listed, rfl⟩, -⟩, rfl⟩ := member
  exact ⟨entry.1, rfl, named entry listed⟩

/-- A definition is given an object where its keywords are those of an object and everything that
stands inside it compiles. -/
theorem objectOf_succeeds_iff
    : (objectOf members (entriesAt setting .properties members)
        (entriesAt setting .patternProperties members)
        (childAt setting .additionalProperties members)).Succeeds
      ↔ ObjectFormed members
        ∧ (∀ entry ∈ definitionsIn members .properties, (compile setting entry.2).Succeeds)
        ∧ (∀ entry ∈ definitionsIn members .patternProperties, (compile setting entry.2).Succeeds)
        ∧ Given members .additionalProperties fun value =>
            isObject value → (compile setting value).Succeeds := by
  have steps
      : (objectOf members (entriesAt setting .properties members)
          (entriesAt setting .patternProperties members)
          (childAt setting .additionalProperties members)).Succeeds
        ↔ (Given members .properties fun value => isObject value)
          ∧ ((∀ entry ∈ definitionsIn members .properties, (compile setting entry.2).Succeeds)
            ∧ (∀ entry ∈ definitionsIn members .properties, entry.1 ≠ "")
            ∧ ((definitionsIn members .properties).map Prod.fst).Nodup
            ∧ ∀ entry ∈ definitionsIn members .properties,
                ({} : ObjectNode Schema).declares entry.1 = false)
          ∧ Given members .required IsRequirement
          ∧ (Given members .patternProperties fun value => isObject value)
          ∧ ((∀ entry ∈ definitionsIn members .patternProperties,
                (compile setting entry.2).Succeeds)
            ∧ ∀ entry ∈ definitionsIn members .patternProperties,
                ∃ pattern, Pattern.compile entry.1 = .ok pattern)
          ∧ Given members .additionalProperties fun value =>
              (∃ flag, value = .bool flag) ∨ isObject value ∧ (compile setting value).Succeeds := by
    simp only [objectOf, entriesAt_eq]
    refine bind_succeeds_iff_and expectObject_succeeds_iff fun _ => ?_
    -- The names that have been declared are what the required names rely on.
    refine bind_succeeds_iff_of_kept
      (fun _ => ∀ entry ∈ definitionsIn members .properties, entry.1 ≠ "")
      (fun node built => (addProperties_succeeds_iff.mp ⟨node, built⟩).2.1)
      addProperties_succeeds_iff fun node named => ?_
    refine required_then_iff (flagged_isName named) fun node => ?_
    refine bind_succeeds_iff_and expectObject_succeeds_iff fun _ => ?_
    refine bind_succeeds_iff_and addPatterns_succeeds_iff fun node => ?_
    exact assignAdditional_succeeds_iff
  rw [steps]
  constructor
  · rintro ⟨properties, ⟨declared, named, distinct, -⟩, required, patternProperties,
      ⟨matched, patterns⟩, additional⟩
    refine ⟨⟨properties, named, distinct, required, patternProperties, patterns,
      fun value present => (additional value present).imp_right And.left⟩, declared, matched,
      fun value present object => ?_⟩
    rcases additional value present with ⟨flag, rfl⟩ | ⟨-, compiled⟩
    · cases object
    · exact compiled
  · rintro ⟨⟨properties, named, distinct, required, patternProperties, patterns, additional⟩,
      declared, matched, compiled⟩
    refine ⟨properties, ⟨declared, named, distinct, fun _ _ => rfl⟩, required, patternProperties,
      ⟨matched, patterns⟩, fun value present => ?_⟩
    rcases additional value present with flag | object
    · exact Or.inl flag
    · exact Or.inr ⟨object, compiled value present object⟩

end Assay.Definition
