import Assay.Proofs.Definition.Documented
import Assay.Proofs.Store.Admission
import Assay.Proofs.Store.Children

/-! Schemas that are constructed from the inside out. Each node of a definition is made by the
constructor of its kind, which is given what the keywords hold and the children that have been made
before. Documented definitions are compiled to the same trees.
-/

namespace Assay.Definition
open Assembly

variable {setting : Setting} {members : Members} {keyword : Keyword} {formats : Registries}
  {registry : RegistryId} {store : Store}

-----------------------------------------------------------------------------------------
-- Arguments of constructors
-----------------------------------------------------------------------------------------

/-- An argument that is given if there is a value for it. -/
def argumentIf (name : String) (value : Option Value)
    : Store.Arguments :=
  (value.map (name, ·)).toList

/-- A node as a constructor is given it. -/
def nodeValue (id : NodeId)
    : Value :=
  .foreign (.node id "" "")

/-- Nodes with names as a constructor is given them. -/
def nodeValues (entries : List (String × NodeId))
    : Value :=
  .object (ObjectNode.mapEntries nodeValue entries)

/-- What the constructor of leaves is given. -/
def leafArguments (members : Members)
    : Store.Arguments :=
  LeafField.all.flatMap fun field => argumentIf field.name (value? members field.keyword)

/-- What the constructor of arrays is given. -/
def arrayArguments (members : Members) (items : Option NodeId)
    : Store.Arguments :=
  argumentIf "items" (items.map nodeValue)
    ++ argumentIf "min_items" (value? members .minItems)
    ++ argumentIf "max_items" (value? members .maxItems)

/-- What the constructor of objects is given. Members that call themselves required are named before
those that are listed. -/
def objectArguments (members : Members) (properties patterns : List (String × NodeId))
    (additional : Option NodeId)
    : Store.Arguments :=
  argumentIf "properties" ((value? members .properties).map fun _ => nodeValues properties)
    ++ [("required", .list (flaggedNames members ++ listedNames members))]
    ++ argumentIf "pattern_properties"
      ((value? members .patternProperties).map fun _ => nodeValues patterns)
    ++ argumentIf "additional_properties"
      ((value? members .additionalProperties).map (additional.map nodeValue).getD)

-----------------------------------------------------------------------------------------
-- Construction
-----------------------------------------------------------------------------------------

/-- The construction of a node in a store. -/
abbrev Construction : Type := Store → Except Failure (NodeId × Store)

/-- Nodes with names constructed one after the other. -/
def constructAll
    : List (String × Construction) → Store → Except Failure (List (String × NodeId) × Store)
  | [], store => .ok ([], store)
  | (name, child) :: rest, store => do
      let (id, store) ← child store
      let (others, store) ← constructAll rest store
      return ((name, id) :: others, store)

/-- A node constructed, if there is one to construct. -/
def constructIf
    : Option Construction → Store → Except Failure (Option NodeId × Store)
  | none, store => .ok (none, store)
  | some child, store => do
      let (id, store) ← child store
      return (some id, store)

mutual

/-- Constructs the node of a definition, its children first. -/
def construct (formats : Registries) (registry : RegistryId)
    : Value → Construction
  | .object members => fun store =>
      match kindOf members with
      | .simple => store.addLeaf formats registry (leafArguments members)
      | .array => do
          let (items, store) ← constructIf (constructionAt formats registry .items members) store
          store.addArray (arrayArguments members items)
      | .object => do
          let (properties, store) ←
            constructAll (constructionsAt formats registry .properties members) store
          let (patterns, store) ←
            constructAll (constructionsAt formats registry .patternProperties members) store
          let (additional, store) ←
            constructIf (constructionAt formats registry .additionalProperties members) store
          store.addObject (objectArguments members properties patterns additional)
  | value => fun _ => .error (.stopped (.noMember value.qualifiedTypeName "get"))

/-- The construction of the definition at a keyword, if there is one. -/
def constructionAt (formats : Registries) (registry : RegistryId) (keyword : Keyword)
    : List (String × Value) → Option Construction
  | [] => none
  | (name, value) :: rest =>
      if name = keyword.word then
        if isObject value then some (construct formats registry value) else none
      else constructionAt formats registry keyword rest

/-- The constructions of the definitions in the object at a keyword. -/
def constructionsAt (formats : Registries) (registry : RegistryId) (keyword : Keyword)
    : List (String × Value) → List (String × Construction)
  | [] => []
  | (name, value) :: rest =>
      if name = keyword.word then constructionsOf formats registry value
      else constructionsAt formats registry keyword rest

/-- The constructions of the definitions in an object. -/
def constructionsOf (formats : Registries) (registry : RegistryId)
    : Value → List (String × Construction)
  | .object members => constructionsIn formats registry members
  | _ => []

/-- The constructions of definitions with names. -/
def constructionsIn (formats : Registries) (registry : RegistryId)
    : List (String × Value) → List (String × Construction)
  | [] => []
  | (name, value) :: rest =>
      (name, construct formats registry value) :: constructionsIn formats registry rest

end

theorem constructionAt_eq (members : Members)
    : constructionAt formats registry keyword members
      = (definitionAt? members keyword).map (construct formats registry) := by
  unfold definitionAt?
  induction members with
  | nil => simp [constructionAt, value?, Value.member?]
  | cons member rest ih =>
      obtain ⟨name, value⟩ := member
      rw [constructionAt, ih, value?_cons]
      by_cases same : name = keyword.word
      · cases object : isObject value <;> simp [same, object, Option.filter_some]
      · simp [same]

/-- A definition with a name and its construction. -/
def constructionOf (formats : Registries) (registry : RegistryId) (entry : String × Value)
    : String × Construction :=
  (entry.1, construct formats registry entry.2)

theorem constructionsIn_eq (entries : Members)
    : constructionsIn formats registry entries = entries.map (constructionOf formats registry) := by
  induction entries with
  | nil => simp [constructionsIn]
  | cons entry rest ih => simp [constructionsIn, ih, constructionOf]

theorem constructionsAt_eq (members : Members)
    : constructionsAt formats registry keyword members
      = (definitionsIn members keyword).map (constructionOf formats registry) := by
  unfold definitionsIn
  induction members with
  | nil => simp [constructionsAt, value?, Value.member?]
  | cons member rest ih =>
      obtain ⟨name, value⟩ := member
      rw [constructionsAt, ih, value?_cons]
      split
      · cases value <;> simp [constructionsOf, constructionsIn_eq]
      · rfl

-----------------------------------------------------------------------------------------
-- What constructors make of their arguments
-----------------------------------------------------------------------------------------

@[simp]
theorem lookup_argumentIf (name other : String) (value : Option Value)
    : (argumentIf name value).lookup other = if other = name then value else none := by
  unfold argumentIf
  cases value with
  | none => simp
  | some value =>
      by_cases same : other = name
      · simp [same]
      · have differs : (other == name) = false := by simpa using same
        simp [same, List.lookup_cons, differs]

/-- A field is looked up among the fields that values are given to. -/
theorem lookup_given (value : LeafField → Option Value) (fields : List LeafField)
    (field : LeafField)
    : (fields.flatMap fun other => ((value other).map (other, ·)).toList).lookup field
      = if field ∈ fields then value field else none := by
  induction fields with
  | nil => rfl
  | cons other rest ih =>
      rw [List.flatMap_cons, List.lookup_append, ih]
      by_cases same : field = other
      · subst same
        cases value field <;> simp
      · have differs : (field == other) = false := by simpa using same
        cases value other <;> simp [same, List.lookup_cons, differs]

/-- A leaf is made of the values that its definition gives to its fields. -/
theorem leafOf_arguments_eq_ok_iff {held : FormatRegistry} {leaf : Leaf}
    : Store.leafOf held (leafArguments members) = .ok leaf
      ↔ Leaf.assignAll held {} (settings members LeafField.all) = .ok leaf := by
  have fields
      : (leafArguments members).filterMap (fun argument =>
          (LeafField.ofName? argument.1).map (·, argument.2))
        = LeafField.all.flatMap fun field =>
            ((value? members field.keyword).map (field, ·)).toList := by
    rw [leafArguments, List.filterMap_flatMap]
    congr 1
    funext field
    have named : LeafField.ofName? field.name = some field := LeafField.ofName?_eq_some_iff.mpr rfl
    unfold argumentIf
    cases value? members field.keyword <;> simp [named]
  have made
      : Store.leafOf held (leafArguments members)
        = Leaf.ofFields held ((leafArguments members).filterMap fun argument =>
            (LeafField.ofName? argument.1).map (·, argument.2)) := rfl
  have given
      : Leaf.givenOf (LeafField.all.flatMap fun field =>
            ((value? members field.keyword).map (field, ·)).toList) LeafField.all
        = settings members LeafField.all := by
    unfold Leaf.givenOf settings settingOf
    congr 1
    funext field
    have every : field ∈ LeafField.all := by cases field <;> decide
    rw [lookup_given, if_pos every]
  rw [made, fields, Leaf.ofFields, Leaf.assignGiven_eq_ok_iff, given]

theorem arrayOf_arguments (anything : NodeId) (members : Members) (items : Option NodeId)
    : Store.arrayOf anything (arrayArguments members items)
      = ArrayNode.ofItems (items.getD anything) (sizeAt members .minItems)
          (sizeAt members .maxItems) := by
  have stated
      : Store.argument (arrayArguments members items) "items" .null
          = (items.map nodeValue).getD .null
        ∧ Store.argument (arrayArguments members items) "min_items" (.int 0)
          = sizeAt members .minItems
        ∧ Store.argument (arrayArguments members items) "max_items" (.int 0)
          = sizeAt members .maxItems := by
    simp [Store.argument, arrayArguments, List.lookup_append, sizeAt]
  simp only [Store.arrayOf, stated]
  cases items <;> rfl

theorem declareAll_nodeValues (entries : List (String × NodeId)) (node : ObjectNode NodeId)
    : Store.declareAll node (ObjectNode.mapEntries nodeValue entries)
      = entries.foldlM ObjectNode.declaring node := by
  induction entries generalizing node with
  | nil => rfl
  | cons entry rest ih =>
      rw [List.foldlM_cons]
      exact congrArg _ (funext ih)

theorem addAllPatterns_nodeValues (entries : List (String × NodeId)) (node : ObjectNode NodeId)
    : Store.addAllPatterns node (ObjectNode.mapEntries nodeValue entries)
      = entries.foldlM ObjectNode.matching node := by
  induction entries generalizing node with
  | nil => rfl
  | cons entry rest ih =>
      rw [List.foldlM_cons]
      exact congrArg _ (funext ih)

/-- The entries of an argument that is given where a keyword is present. -/
theorem entries_argument {entries : List (String × NodeId)}
    (absent : value? members keyword = none → entries = [])
    : Store.entries (((value? members keyword).map fun _ => nodeValues entries).getD .null)
      = .ok (ObjectNode.mapEntries nodeValue entries) := by
  cases present : value? members keyword with
  | none =>
      obtain rfl := absent present
      rfl
  | some value => rfl

theorem slot_argument (valued : Valued members) {additional : Option NodeId}
    (present : additional.isSome = (definitionAt? members .additionalProperties).isSome)
    : Store.slot (((value? members .additionalProperties).map
          (additional.map nodeValue).getD).getD (.bool true))
      = .orElse (policyAt members) additional := by
  unfold definitionAt? at present
  unfold policyAt
  cases stated : value? members .additionalProperties with
  | none =>
      obtain rfl : additional = none := by simpa [stated] using present
      rfl
  | some value =>
      have documented : isDocumented value .additionalProperties := valued _ value stated
      cases value with
      | bool flag =>
          obtain rfl : additional = none := by simpa [stated, isObject] using present
          rfl
      | object inner =>
          obtain ⟨id, rfl⟩ : ∃ id, additional = some id :=
            Option.isSome_iff_exists.mp (by simpa [stated, isObject] using present)
          rfl
      | _ => cases documented

theorem objectOf_arguments (valued : Valued members) {properties patterns : List (String × NodeId)}
    {additional : Option NodeId} (declared : value? members .properties = none → properties = [])
    (matched : value? members .patternProperties = none → patterns = [])
    (present : additional.isSome = (definitionAt? members .additionalProperties).isSome)
    : Store.objectOf (objectArguments members properties patterns additional)
      = ObjectNode.ofChildren properties (flaggedNames members ++ listedNames members) patterns
          (.orElse (policyAt members) additional) := by
  have stated
      : Store.argument (objectArguments members properties patterns additional) "properties" .null
          = ((value? members .properties).map fun _ => nodeValues properties).getD .null
        ∧ Store.argument (objectArguments members properties patterns additional) "required"
            (.array .tuple [])
          = .list (flaggedNames members ++ listedNames members)
        ∧ Store.argument (objectArguments members properties patterns additional)
            "pattern_properties" .null
          = ((value? members .patternProperties).map fun _ => nodeValues patterns).getD .null
        ∧ Store.argument (objectArguments members properties patterns additional)
            "additional_properties" (.bool true)
          = ((value? members .additionalProperties).map (additional.map nodeValue).getD).getD
              (.bool true) := by
    simp [Store.argument, objectArguments, List.lookup_append, List.lookup_cons]
  simp only [Store.objectOf, stated, entries_argument declared, entries_argument matched,
    slot_argument valued present, ok_bind, declareAll_nodeValues, addAllPatterns_nodeValues]
  rfl

-----------------------------------------------------------------------------------------
-- Constructed and compiled trees
-----------------------------------------------------------------------------------------

/-- Children have been put into a store one after the other. -/
structure PutsAll (before : Store) (made : List (String × NodeId) × Store)
    (children : List (String × Schema)) : Prop where
  grows : before.Extends made.2
  reads : ObjectNode.mapEntries? made.2.tree? made.1 = some children

theorem PutsAll.reads_later {before after : Store} {made : List (String × NodeId) × Store}
    {children : List (String × Schema)} (puts : PutsAll before made children)
    (grown : made.2.Extends after)
    : ObjectNode.mapEntries? after.tree? made.1 = some children :=
  ObjectNode.mapEntries?_mono (fun _ _ _ tree => grown.tree? tree) puts.reads

/-- A child has been put into a store, if there is one. -/
structure PutsIf (before : Store) (made : Option NodeId × Store) (child : Option Schema)
    : Prop where
  grows : before.Extends made.2
  reads : Option.Rel (fun id schema => made.2.tree? id = some schema) made.1 child

/-- A definition is constructed, in any store, exactly if it compiles, and to the same tree. -/
def ConstructedAlike (setting : Setting) (formats : Registries) (definition : Value)
    : Prop :=
  ∀ store : Store, Matches store.Puts (construct formats setting.registry definition store)
    (compile setting definition).Builds

theorem constructAll_matches {entries : Members}
    (each : ∀ entry ∈ entries, ConstructedAlike setting formats entry.2) (store : Store)
    : Matches (PutsAll store)
        (constructAll (entries.map (constructionOf formats setting.registry)) store)
        (List.Forall₂ (Compiles setting) entries) := by
  induction entries generalizing store with
  | nil =>
      have empty : Matches (PutsAll store) (constructAll [] store) (· = []) :=
        .ok ⟨.refl store, rfl⟩
      exact empty.congr fun children => List.forall₂_nil_left_iff
  | cons entry rest ih =>
      obtain ⟨here, later⟩ := List.forall_mem_cons.mp each
      have steps
          : Matches (PutsAll store)
              (constructAll ((entry :: rest).map (constructionOf formats setting.registry)) store)
              fun children =>
                ∃ schema, (compile setting entry.2).Builds schema
                  ∧ ∃ others, List.Forall₂ (Compiles setting) rest others
                      ∧ children = (entry.1, schema) :: others := by
        refine .bind (here store) fun made schema _ puts =>
          .bind (ih later made.2) fun others children _ all =>
            .ok ⟨puts.grows.trans all.grows, ?_⟩
        exact ObjectNode.mapEntries?_cons_eq_some_iff.mpr
          ⟨schema, children, all.grows.tree? puts.reads, all.reads, rfl⟩
      refine steps.congr fun children => ?_
      rw [List.forall₂_cons_left_iff]
      constructor
      · rintro ⟨⟨name, schema⟩, others, ⟨rfl, built⟩, each, rfl⟩
        exact ⟨schema, built, others, each, rfl⟩
      · rintro ⟨schema, built, others, each, rfl⟩
        exact ⟨(entry.1, schema), others, ⟨rfl, built⟩, each, rfl⟩

theorem constructIf_matches
    (inside
      : ∀ inner,
          definitionAt? members keyword = some inner → ConstructedAlike setting formats inner)
    (store : Store)
    : Matches (PutsIf store)
        (constructIf (constructionAt formats setting.registry keyword members) store)
        (CompiledAt setting members keyword) := by
  rw [constructionAt_eq]
  unfold CompiledAt
  cases definition : definitionAt? members keyword with
  | none =>
      have absent : Matches (PutsIf store) (constructIf none store) (· = none) :=
        .ok ⟨.refl store, .none⟩
      refine absent.congr fun child => ?_
      cases child <;> simp
  | some inner =>
      have steps
          : Matches (PutsIf store)
              (constructIf (some (construct formats setting.registry inner)) store)
              fun child => ∃ schema, (compile setting inner).Builds schema ∧ child = some schema :=
        .bind (inside inner definition store) fun made schema _ puts =>
          .ok ⟨puts.grows, .some puts.reads⟩
      refine steps.congr fun child => ?_
      cases child <;> simp

/-- The leaf of a documented definition is constructed of the same values as it is compiled of. -/
theorem leaf_alike (held : setting.formats = formats setting.registry) (valued : Valued members)
    (placed : Placed members) (registered : Registered setting members)
    (kind : kindOf members = .simple)
    : ConstructedAlike setting formats (.object members) := by
  intro store
  have steps
      : Matches store.Puts (store.addLeaf formats setting.registry (leafArguments members))
          fun schema =>
            ∃ leaf,
              Leaf.assignAll setting.formats {} (settings members LeafField.all) = .ok leaf
              ∧ schema = .leaf setting.registry leaf := by
    rw [Store.addLeaf, ← held]
    have made := (Matches.same (Store.leafOf setting.formats (leafArguments members))).congr
      fun leaf => leafOf_arguments_eq_ok_iff.symm
    refine made.bind fun leaf other _ same => ?_
    subst same
    exact .ok (Store.puts_add rfl)
  rw [construct, kind]
  refine steps.congr fun schema => ?_
  rw [compile_builds_iff_of_documented valued placed, kind]
  constructor
  · rintro ⟨stated, leaf, typed, built, rfl⟩
    exact ⟨leaf, (leafOf_builds_iff typed valued registered).mp built, rfl⟩
  · rintro ⟨leaf, made, rfl⟩
    obtain ⟨word, typed⟩ := typeWord_of_valued valued
    obtain ⟨stated, typed, -⟩ := typeOf_builds_of_typeWord typed
    exact ⟨stated, leaf, typed, (leafOf_builds_iff typed valued registered).mpr made, rfl⟩

/-- An array is made of items that have been put into a store, or of a leaf for any of them. -/
theorem addArray_matches (members : Members) {made : Option NodeId × Store} {child : Option Schema}
    (puts : PutsIf store made child)
    : Matches store.Puts (made.2.addArray (arrayArguments members made.1))
        fun schema =>
          ∃ node,
            ArrayNode.ofItems (child.getD Schema.anything) (sizeAt members .minItems)
                (sizeAt members .maxItems)
              = .ok node
            ∧ schema = .array node := by
  obtain ⟨items, between⟩ := made
  obtain ⟨grows, reads⟩ := puts
  have anything : between.Puts (between.addTree Schema.anything) Schema.anything :=
    Store.puts_add rfl
  have replaced
      : (between.addTree Schema.anything).2.tree?
          (items.getD (between.addTree Schema.anything).1)
        = some (child.getD Schema.anything) := by
    cases reads with
    | none => exact anything.reads
    | some found => exact anything.grows.tree? found
  unfold Store.addArray
  simp only [arrayOf_arguments]
  refine .bind (ArrayNode.matches_ofItems replaced _ _) fun node tree _ mapped =>
    .ok (.of_grown (grows.trans anything.grows) (Store.puts_add ?_))
  rw [Store.cellTree?, mapped, Option.map_some]

/-- Nothing is constructed for a keyword that is absent. -/
theorem nil_of_absent {made : List (String × NodeId)} {children : List (String × Schema)}
    (reads : ObjectNode.mapEntries? store.tree? made = some children)
    (each : List.Forall₂ (Compiles setting) (definitionsIn members keyword) children)
    (absent : value? members keyword = none)
    : made = [] := by
  rw [definitionsIn, absent, List.forall₂_nil_left_iff] at each
  have names := ObjectNode.map_fst_of_mapEntries? reads
  rw [each] at names
  exact List.map_eq_nil_iff.mp names.symm

/-- A child has been constructed for a keyword if a definition stands there. -/
theorem isSome_of_compiledAt {made : Option NodeId} {child : Option Schema}
    (reads : Option.Rel (fun id schema => store.tree? id = some schema) made child)
    (compiled : CompiledAt setting members keyword child)
    : made.isSome = (definitionAt? members keyword).isSome := by
  unfold CompiledAt at compiled
  generalize definitionAt? members keyword = definition at compiled
  cases compiled <;> cases reads <;> rfl

/-- An object is made of children that have been put into a store one after the other. -/
theorem addObject_matches (valued : Valued members)
    {declared matched : List (String × NodeId) × Store} {last : Option NodeId × Store}
    {properties patterns : List (String × Schema)} {child : Option Schema}
    (declares : PutsAll store declared properties) (adds : PutsAll declared.2 matched patterns)
    (puts : PutsIf matched.2 last child)
    (eachProperty
      : List.Forall₂ (Compiles setting) (definitionsIn members .properties) properties)
    (eachPattern
      : List.Forall₂ (Compiles setting) (definitionsIn members .patternProperties) patterns)
    (compiled : CompiledAt setting members .additionalProperties child)
    : Matches store.Puts
        (last.2.addObject (objectArguments members declared.1 matched.1 last.1))
        fun schema =>
          ∃ node,
            ObjectNode.ofChildren properties (flaggedNames members ++ listedNames members) patterns
                (.orElse (policyAt members) child)
              = .ok node
            ∧ schema = .object node := by
  have readsProperties := declares.reads_later (adds.grows.trans puts.grows)
  have readsPatterns := adds.reads_later puts.grows
  unfold Store.addObject
  rw [objectOf_arguments valued (nil_of_absent readsProperties eachProperty)
    (nil_of_absent readsPatterns eachPattern) (isSome_of_compiledAt puts.reads compiled)]
  refine .bind (ObjectNode.matches_ofChildren readsProperties readsPatterns puts.reads _ _)
    fun node tree _ mapped => .ok (.of_grown ?_ (Store.puts_add ?_))
  · exact declares.grows.trans (adds.grows.trans puts.grows)
  · rw [Store.cellTree?, mapped, Option.map_some]

/-- The array of a documented definition is constructed of its items, if these are alike. -/
theorem array_alike (valued : Valued members) (placed : Placed members)
    (kind : kindOf members = .array)
    (items
      : ∀ inner,
          definitionAt? members .items = some inner → ConstructedAlike setting formats inner)
    : ConstructedAlike setting formats (.object members) := by
  intro store
  rw [construct, kind]
  have steps := Matches.bind (constructIf_matches items store) fun _ _ _ puts =>
    addArray_matches members puts
  refine Matches.congr steps fun schema => ?_
  rw [compile_builds_iff_of_documented valued placed, kind]
  simp only [arrayOf_builds_iff valued]
  constructor
  · rintro ⟨node, ⟨items, compiled, made⟩, rfl⟩
    exact ⟨items, compiled, node, made, rfl⟩
  · rintro ⟨items, compiled, node, made, rfl⟩
    exact ⟨node, ⟨items, compiled, made⟩, rfl⟩

/-- The object of a documented definition is constructed of its children, if these are alike. -/
theorem object_alike (valued : Valued members) (placed : Placed members)
    (kind : kindOf members = .object)
    (additional
      : ∀ inner,
          definitionAt? members .additionalProperties = some inner
          → ConstructedAlike setting formats inner)
    (properties
      : ∀ entry ∈ definitionsIn members .properties, ConstructedAlike setting formats entry.2)
    (patterns
      : ∀ entry ∈ definitionsIn members .patternProperties,
          ConstructedAlike setting formats entry.2)
    : ConstructedAlike setting formats (.object members) := by
  intro store
  rw [construct, kind]
  have steps := Matches.bind (constructAll_matches properties store)
    fun declared _ eachProperty declares =>
      Matches.bind (constructAll_matches patterns declared.2) fun matched _ eachPattern adds =>
        Matches.bind (constructIf_matches additional matched.2) fun last _ compiled puts =>
          addObject_matches valued declares adds puts eachProperty eachPattern compiled
  rw [constructionsAt_eq, constructionsAt_eq]
  refine Matches.congr steps fun schema => ?_
  rw [compile_builds_iff_of_documented valued placed, kind]
  simp only [objectOf_builds_iff valued]
  constructor
  · rintro ⟨node, ⟨properties, patterns, child, eachProperty, eachPattern, compiled, made⟩, rfl⟩
    exact ⟨properties, eachProperty, patterns, eachPattern, child, compiled, node, made, rfl⟩
  · rintro ⟨properties, eachProperty, patterns, eachPattern, child, compiled, node, made, rfl⟩
    exact ⟨node, ⟨properties, patterns, child, eachProperty, eachPattern, compiled, made⟩, rfl⟩

/-- Documented definitions are constructed as they are compiled, by induction on the definitions
inside them. -/
theorem constructedAlike_of_documented {definition : Value}
    (held : setting.formats = formats setting.registry)
    (documented : Documented setting definition)
    : ConstructedAlike setting formats definition := by
  induction documented with
  | @intro members valued placed registered children entries inside within =>
      cases kind : kindOf members with
      | simple => exact leaf_alike held valued placed registered kind
      | array => exact array_alike valued placed kind (inside .items (by decide))
      | object =>
          exact object_alike valued placed kind (inside .additionalProperties (by decide))
            (within .properties (by decide)) (within .patternProperties (by decide))

-----------------------------------------------------------------------------------------
-- Leaves assigned field by field
-----------------------------------------------------------------------------------------

/-- The fields of a leaf apart from its type. -/
def constraints : List LeafField :=
  LeafField.all.tail

/-- Assigns fields of a node one after the other. -/
def assignEach (formats : Registries) (made : NodeId × Store)
    : List (LeafField × Value) → Except Failure (NodeId × Store)
  | [] => .ok made
  | (field, value) :: rest => do
      let store ← made.2.call formats made.1 (.assign field.name value)
      assignEach formats (made.1, store) rest

/-- A new cell that is replaced is another new cell. -/
theorem put_add (store : Store) (cell next : Cell)
    : (store.add cell).2.put (store.add cell).1 next = (store.add next).2 := by
  have replaced : (store.cells.push cell).setIfInBounds store.cells.size next
      = store.cells.push next := by
    apply Array.toList_inj.mp
    simp
  exact congrArg Store.mk replaced

/-- A field of a new leaf is assigned as that of the leaf alone. -/
theorem call_add_leaf (store : Store) (leaf : Leaf) (field : LeafField) (value : Value)
    : (store.add (.leaf registry leaf)).2.call formats (store.add (.leaf registry leaf)).1
          (.assign field.name value)
      = (leaf.assign (formats registry) field value).map fun after =>
          (store.add (.leaf registry after)).2 := by
  rw [Store.call_of_found (Store.get?_add_self store _),
    Cell.called_field (LeafField.ofName?_eq_some_iff.mpr rfl)]
  cases leaf.assign (formats registry) field value with
  | error failure => rfl
  | ok after => exact congrArg Except.ok (put_add store _ _)

/-- Fields of a new leaf are assigned as those of the leaf alone, by induction on the fields. -/
theorem assignEach_eq_ok_iff {fields : List (LeafField × Value)} {leaf : Leaf}
    {made : NodeId × Store}
    : assignEach formats (store.add (.leaf registry leaf)) fields = .ok made
      ↔ ∃ after,
          leaf.assignAll (formats registry) fields = .ok after
          ∧ made = store.add (.leaf registry after) := by
  induction fields generalizing leaf with
  | nil => simp [assignEach, Leaf.assignAll, eq_comm]
  | cons setting rest ih =>
      obtain ⟨field, value⟩ := setting
      rw [assignEach, call_add_leaf, Leaf.assignAll]
      cases leaf.assign (formats registry) field value with
      | error failure => simp [Except.map]
      | ok next => exact ih

theorem settings_sublist (members : Members) (fields : List LeafField)
    : ((settings members fields).map (·.1)).Sublist fields := by
  induction fields with
  | nil => exact .slnil
  | cons field rest ih =>
      rw [settings_cons, settingOf]
      cases (value? members field.keyword).filter field.isGiven with
      | none => exact ih.cons field
      | some value => exact ih.cons_cons field

/-- The constraints of a definition concern different fields. -/
theorem constraints_independent (members : Members)
    : Leaf.Independent (settings members constraints) := by
  have distinct : constraints.Nodup := by decide
  have untyped : LeafField.type ∉ constraints := by decide
  have fields := settings_sublist members constraints
  exact ⟨distinct.sublist fields, fun typed => untyped (fields.subset typed)⟩

/-- A new leaf that is given its type and then its constraints, in any order, ends up as the one
that is constructed of all of them at once. -/
theorem assignEach_iff_addLeaf {order : List (LeafField × Value)} {made : NodeId × Store}
    (permuted : order.Perm (settings members constraints))
    : assignEach formats (store.add (.leaf registry {}))
          ((settingOf members .type).toList ++ order)
        = .ok made
      ↔ store.addLeaf formats registry (leafArguments members) = .ok made := by
  have fields : settings members LeafField.all
      = (settingOf members .type).toList ++ settings members constraints :=
    settings_cons members .type constraints
  rw [assignEach_eq_ok_iff, Store.addLeaf, bind_pure_eq_ok_iff]
  refine exists_congr fun leaf => and_congr ?_ eq_comm
  simp only [leafOf_arguments_eq_ok_iff, fields, Leaf.assignAll_append, bind_eq_ok_iff]
  refine exists_congr fun typed => and_congr_right fun _ => ?_
  exact Leaf.assignAll_eq_ok_iff_of_perm permuted
    ((constraints_independent members).perm permuted.symm)

-----------------------------------------------------------------------------------------
-- Three ways to a tree
-----------------------------------------------------------------------------------------

/-- A documented definition compiles exactly if its nodes can be constructed from the inside out,
and then the tree that has been constructed is the one that it compiles to. Each leaf can also be
assigned its type and then its constraints in any order, with the same outcome as its
construction. -/
theorem compiled_as_constructed (formats : Registries) (registry : RegistryId)
    (strictFormats : Bool) (definition : Value)
    (documented : Documented ⟨strictFormats, registry, formats registry⟩ definition)
    (store : Store)
    : (Returns (compile ⟨strictFormats, registry, formats registry⟩ definition).outcome
        ↔ Returns (construct formats registry definition store))
      ∧ (∀ schema made,
          (compile ⟨strictFormats, registry, formats registry⟩ definition).outcome = .ok schema
          → construct formats registry definition store = .ok made
          → made.2.tree? made.1 = some schema)
      ∧ ∀ (members : Members) (order : List (LeafField × Value)) (made : NodeId × Store),
          order.Perm (settings members constraints)
          → (assignEach formats (store.add (.leaf registry {}))
                  ((settingOf members .type).toList ++ order)
                = .ok made
              ↔ store.addLeaf formats registry (leafArguments members) = .ok made) := by
  have alike := constructedAlike_of_documented rfl documented store
  refine ⟨⟨?_, ?_⟩, ?_, fun members order made permuted => assignEach_iff_addLeaf permuted⟩
  · rintro ⟨schema, built⟩
    obtain ⟨made, constructed, -⟩ := alike.back built
    exact ⟨made, constructed⟩
  · rintro ⟨made, constructed⟩
    obtain ⟨schema, built, -⟩ := alike.forth constructed
    exact ⟨schema, built⟩
  · intro schema made built constructed
    obtain ⟨other, built', puts⟩ := alike.forth constructed
    obtain rfl := Except.ok.inj (built.symm.trans built')
    exact puts.reads

/-- What a definition of positive numbers says. -/
def positive : Members :=
  [("type", .string "number"), ("minimum", .int 0), ("exclusiveMinimum", .bool true)]

/-- What a definition of arrays of at least two positive numbers says. -/
def positives : Members :=
  [("type", .string "array"), ("items", .object positive), ("minItems", .int 2)]

theorem documented_positive (setting : Setting)
    : Documented setting (.object positive) := by
  refine .intro (fun keyword value present => ?_) ⟨fun keyword listed => ?_, nofun⟩ nofun
    (fun keyword listed inner found => ?_) fun keyword listed entry found => ?_
  · cases keyword <;> cases present <;> rfl
  · fin_cases listed <;> rfl
  · fin_cases listed <;> nomatch found
  · fin_cases listed <;> nomatch found

theorem documented_positives (setting : Setting)
    : Documented setting (.object positives) := by
  have placed : Lacks positives (Keyword.ofLeaves ++ Keyword.ofObjects) := by
    intro keyword listed
    fin_cases listed <;> rfl
  refine .intro (fun keyword value present => ?_) placed nofun
    (fun keyword listed inner found => ?_) fun keyword listed entry found => ?_
  · cases keyword <;> cases present <;> rfl
  · fin_cases listed
    · obtain rfl := Option.some.inj found
      exact documented_positive setting
    · nomatch found
  · fin_cases listed <;> nomatch found

/-- An array is made behind its items, which can be given their constraints in another order. -/
theorem positives_compiled_as_constructed
    : Documented ⟨true, defaultRegistry, .builtIn⟩ (.object positives)
      ∧ (∃ schema made,
          (compile ⟨true, defaultRegistry, .builtIn⟩ (.object positives)).outcome = .ok schema
          ∧ construct (fun _ => .builtIn) defaultRegistry (.object positives) {} = .ok made
          ∧ made.1 = 2
          ∧ made.2.tree? made.1 = some schema)
      ∧ ∃ made,
          assignEach (fun _ => .builtIn) (Store.add {} (.leaf defaultRegistry {}))
              [(.type, .string "number"), (.exclusiveMinimum, .bool true), (.minimum, .int 0)]
            = .ok made
          ∧ Store.addLeaf (fun _ => .builtIn) defaultRegistry (leafArguments positive) {}
            = .ok made := by
  have documented := documented_positives ⟨true, defaultRegistry, .builtIn⟩
  obtain ⟨succeeds, alike, assigned⟩ := compiled_as_constructed (fun _ => .builtIn)
    defaultRegistry true (.object positives) documented {}
  have compiles
      : Returns (compile ⟨true, defaultRegistry, .builtIn⟩ (.object positives)).outcome :=
    ⟨_, rfl⟩
  obtain ⟨schema, built⟩ := compiles
  obtain ⟨made, constructed⟩ := succeeds.mp ⟨schema, built⟩
  have behind : made.1 = 2 := by
    obtain rfl := Except.ok.inj constructed
    rfl
  refine ⟨documented, ⟨schema, made, built, constructed, behind, alike _ _ built constructed⟩, ?_⟩
  have swapped
      : [(LeafField.exclusiveMinimum, Value.bool true), (.minimum, .int 0)].Perm
          (settings positive constraints) :=
    .swap _ _ _
  exact ⟨_, rfl, (assigned positive _ _ swapped).mp rfl⟩

end Assay.Definition
