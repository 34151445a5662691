import Assay.Proofs.Definition.Acceptance
import Assay.Proofs.Definition.Blame
import Assay.Proofs.Definition.RequiredForms
import Assay.Proofs.Leaf.Ordering
import Assay.Proofs.Schema.Children

/-! Definitions whose keywords all hold values of the kind that is documented for them. They are
compiled to what their values make up: a leaf of assigned fields, or a container of the children
that have been compiled from what stands inside them.
-/

namespace Assay.Definition
open Assembly

variable {setting : Setting} {members : Members} {keyword : Keyword}

-----------------------------------------------------------------------------------------
-- Documented definitions
-----------------------------------------------------------------------------------------

/-- Whether a value is a truth value. -/
def isFlag
    : Value → Bool
  | .bool _ => true
  | _ => false

/-- Whether a value is of the kind that is documented for a keyword. A definition may be required,
or name what it requires; references are not supported. -/
def isDocumented (value : Value)
    : Keyword → Bool
  | .reference => false
  | .type | .pattern | .format => isText value
  | .minLength | .maxLength | .minItems | .maxItems => isInteger value
  | .minimum | .maximum => isNumber value
  | .exclusiveMinimum | .exclusiveMaximum => isFlag value
  | .enumeration => isList value
  | .items | .properties | .patternProperties => isObject value
  | .additionalProperties => isFlag value || isObject value
  | .required => isFlag value || isList value

/-- The kind of the schema that a definition asks for. -/
def kindOf (members : Members)
    : SchemaKind :=
  if typeWord? members = some SchemaKind.array.word then .array
  else if typeWord? members = some SchemaKind.object.word then .object
  else .simple

/-- A definition has no keywords of another kind than its own. -/
def Placed (members : Members)
    : Prop :=
  match kindOf members with
  | .simple =>
      Lacks members (Keyword.ofArrays ++ Keyword.ofObjects)
      ∧ Given members .required fun value => isList value = false
  | .array => Lacks members (Keyword.ofLeaves ++ Keyword.ofObjects)
  | .object => Lacks members (Keyword.ofLeaves ++ Keyword.ofArrays)

/-- The keywords of a definition hold values of the kinds that are documented for them. -/
def Valued (members : Members)
    : Prop :=
  ∀ keyword, Given members keyword fun value => isDocumented value keyword

/-- The formats that a definition names are registered, where they have to be. -/
def Registered (setting : Setting) (members : Members)
    : Prop :=
  Given members .format fun value =>
    ∀ name, value.text? = some name → setting.strictFormats → setting.formats.isRegistered name

/-- The definition that stands at a keyword, if there is one. -/
def definitionAt? (members : Members) (keyword : Keyword)
    : Option Value :=
  (value? members keyword).filter isObject

/-- A definition is documented: its keywords go with its kind and hold values of the documented
kinds, formats are registered where they have to be, and so it is with the definitions inside it. -/
inductive Documented (setting : Setting) : Value → Prop
  | intro {members : Members}
    (valued : Valued members)
    (placed : Placed members)
    (registered : Registered setting members)
    (children
      : ∀ keyword ∈ [Keyword.items, .additionalProperties], ∀ inner,
          definitionAt? members keyword = some inner → Documented setting inner)
    (entries
      : ∀ keyword ∈ [Keyword.properties, .patternProperties],
          ∀ entry ∈ definitionsIn members keyword, Documented setting entry.2)
    : Documented setting (.object members)

-----------------------------------------------------------------------------------------
-- Kinds
-----------------------------------------------------------------------------------------

/-- Behind what builds one value, the second assembly alone decides what is built. -/
theorem bind_builds_iff_of_builds {α β : Type} {assembly : Assembly α} {next : α → Assembly β}
    {value : α} {result : β} (built : assembly.Builds value)
    : (assembly >>= next).Builds result ↔ (next value).Builds result := by
  rw [bind_builds_iff]
  constructor
  · rintro ⟨other, built', rest⟩
    obtain rfl := Except.ok.inj (built.symm.trans built')
    exact rest
  · exact fun rest => ⟨value, built, rest⟩

/-- Assemblies in a row build what steps in a row return, if they do so one by one. -/
theorem bind_builds_iff_bind {α β : Type} {assembly : Assembly α} {next : α → Assembly β}
    {step : Except Failure α} {after : α → Except Failure β} {result : β}
    (here : ∀ value, assembly.Builds value ↔ step = .ok value)
    (later : ∀ value, step = .ok value → ((next value).Builds result ↔ after value = .ok result))
    : (assembly >>= next).Builds result ↔ (step >>= after) = .ok result := by
  rw [bind_builds_iff, bind_eq_ok_iff]
  refine exists_congr fun value => ?_
  rw [here]
  exact and_congr_right (later value)

theorem typeWord_of_valued (valued : Valued members)
    : ∃ word, typeWord? members = some word := by
  unfold typeWord?
  cases present : value? members .type with
  | none => exact ⟨_, rfl⟩
  | some stated => exact Option.isSome_iff_exists.mp (valued .type stated present)

theorem rejectKeywords_builds {typeName : String} {keywords : List Keyword}
    (lacks : Lacks members keywords)
    : (rejectKeywords members typeName keywords).Builds () := by
  obtain ⟨⟨⟩, built⟩ := rejectKeywords_succeeds_iff.mpr lacks
  exact built

/-- What a definition compiles to, by its kind. Nothing keeps a documented definition from what its
kind asks for. -/
theorem compile_builds_iff_of_documented {schema : Schema} (valued : Valued members)
    (placed : Placed members)
    : (compile setting (.object members)).Builds schema
      ↔ match kindOf members with
        | .simple => ∃ stated leaf,
            (typeOf members).Builds stated
            ∧ (leafOf setting members stated).Builds leaf
            ∧ schema = .leaf setting.registry leaf
        | .array => ∃ node,
            (arrayOf members (childAt setting .items members)).Builds node
            ∧ schema = .array node
        | .object => ∃ node,
            (objectOf members (entriesAt setting .properties members)
                (entriesAt setting .patternProperties members)
                (childAt setting .additionalProperties members)).Builds node
            ∧ schema = .object node := by
  have unreferenced : value? members .reference = none := by
    refine Option.eq_none_iff_forall_ne_some.mpr fun value present => ?_
    nomatch valued .reference value present
  obtain ⟨word, typed⟩ := typeWord_of_valued valued
  obtain ⟨stated, built, reads⟩ := typeOf_builds_of_typeWord typed
  have text : isText stated := Option.isSome_iff_exists.mpr ⟨word, reads⟩
  have displays (kind : SchemaKind)
      : stated.display = kind.word ↔ typeWord? members = some kind.word := by
    rw [typed, ← reads]
    exact ⟨text_of_display text, display_of_text⟩
  rw [compile, unreferenced]
  simp only [Option.isSome_none, Bool.false_eq_true, if_false]
  rw [bind_builds_iff_of_builds built, caught_builds_iff]
  simp only [displays]
  unfold Placed at placed
  unfold kindOf at placed ⊢
  by_cases array : typeWord? members = some SchemaKind.array.word
  · simp only [if_pos array] at placed ⊢
    rw [bind_builds_iff_of_builds (rejectKeywords_builds placed)]
    simp only [bind_builds_iff, complete_builds_iff, eq_comm]
  · simp only [if_neg array] at placed ⊢
    by_cases object : typeWord? members = some SchemaKind.object.word
    · simp only [if_pos object] at placed ⊢
      rw [bind_builds_iff_of_builds (rejectKeywords_builds placed)]
      simp only [bind_builds_iff, complete_builds_iff, eq_comm]
    · simp only [if_neg object] at placed ⊢
      obtain ⟨lacks, unlisted⟩ := placed
      obtain ⟨⟨⟩, accepted⟩ : (rejectRequiredList members stated.display).Succeeds :=
        rejectRequiredList_succeeds_iff.mpr unlisted
      rw [bind_builds_iff_of_builds (rejectKeywords_builds lacks),
        bind_builds_iff_of_builds accepted]
      simp only [bind_builds_iff, complete_builds_iff]
      constructor
      · rintro ⟨leaf, made, rfl⟩
        exact ⟨stated, leaf, built, made, rfl⟩
      · rintro ⟨other, leaf, built', made, rfl⟩
        obtain rfl := Except.ok.inj (built.symm.trans built')
        exact ⟨leaf, made, rfl⟩

-----------------------------------------------------------------------------------------
-- Leaves
-----------------------------------------------------------------------------------------

section Leaves

variable {leaf after : Leaf} {field : LeafField}

/-- The value that a definition gives to a field of a leaf. -/
def settingOf (members : Members) (field : LeafField)
    : Option (LeafField × Value) :=
  ((value? members field.keyword).filter field.isGiven).map (field, ·)

/-- The values that a definition gives to some fields of a leaf. -/
def settings (members : Members) (fields : List LeafField)
    : List (LeafField × Value) :=
  fields.filterMap (settingOf members)

theorem settings_cons (members : Members) (field : LeafField) (rest : List LeafField)
    : settings members (field :: rest)
      = (settingOf members field).toList ++ settings members rest := by
  rw [settings, settings, List.filterMap_cons]
  cases settingOf members field <;> rfl

/-- A value of the documented kind is given to a leaf, unless it is a flag, which has to hold. -/
theorem isGiven_of_documented {value : Value} (documented : isDocumented value field.keyword)
    (plain : field ∉ [.exclusiveMinimum, .exclusiveMaximum])
    : field.isGiven value := by
  cases field <;> cases value <;> first | rfl | exact absurd (by decide) plain | nomatch documented

/-- A keyword that holds what is expected of it is assigned as a value that is given. -/
theorem assignKeyword_builds_iff {expected : Value → Bool} {refusal : Keyword → Value → Refusal}
    (valued : Valued members) (same : field.keyword = keyword)
    (expects : ∀ value, isDocumented value keyword = expected value)
    (plain : field ∉ [.exclusiveMinimum, .exclusiveMaximum])
    : (assignKeyword setting members keyword field expected refusal leaf).Builds after
      ↔ leaf.assignAll setting.formats (settingOf members field).toList = .ok after := by
  subst same
  unfold assignKeyword withKeyword settingOf
  cases present : value? members field.keyword with
  | none => simp [result_builds_iff, Leaf.assignAll]
  | some value =>
      have documented : isDocumented value field.keyword := valued _ value present
      have given := isGiven_of_documented documented plain
      rw [expects] at documented
      simp [documented, given, assigned_builds_iff, Option.filter_some]

/-- A flag that is one is assigned if it holds. -/
theorem assignFlag_builds_iff (valued : Valued members) (same : field.keyword = keyword)
    (flags : ∀ value, isDocumented value keyword = isFlag value)
    (truthy : ∀ flag, field.isGiven (.bool flag) = flag)
    : (assignFlag setting members keyword field leaf).Builds after
      ↔ leaf.assignAll setting.formats (settingOf members field).toList = .ok after := by
  subst same
  unfold assignFlag withKeyword settingOf
  cases present : value? members field.keyword with
  | none => simp [result_builds_iff, Leaf.assignAll]
  | some value =>
      have documented : isDocumented value field.keyword := valued _ value present
      rw [flags] at documented
      cases value with
      | bool holds =>
          cases holds with
          | false => simp [truthy, result_builds_iff, Leaf.assignAll, Option.filter_some]
          | true => simp [truthy, assigned_builds_iff, Option.filter_some]
      | _ => cases documented

/-- A leaf is given a type as any other value, where a definition states one. -/
theorem ofFields_type_eq_ok_iff_assignAll {stated : Value}
    (typed : (typeOf members).Builds stated)
    : Leaf.ofFields setting.formats [(.type, stated)] = .ok leaf
      ↔ Leaf.assignAll setting.formats {} (settingOf members .type).toList = .ok leaf := by
  rcases withKeyword_builds_iff.mp typed with ⟨absent, rfl⟩ | ⟨value, present, built⟩
  · have anything
        : Leaf.ofFields setting.formats [(.type, .string SimpleType.any.word)] = .ok {} :=
      ofFields_type_eq_ok_iff.mpr ⟨.any, rfl, rfl⟩
    rw [anything, settingOf, LeafField.keyword, absent]
    rfl
  · split at built
    · obtain rfl := result_builds_iff.mp built
      rw [settingOf, LeafField.keyword, present]
      rfl
    · exact absurd built not_refuse_builds

/-- The leaf of a documented definition is the one with its fields assigned. -/
theorem leafOf_builds_iff {stated : Value} (typed : (typeOf members).Builds stated)
    (valued : Valued members) (registered : Registered setting members)
    : (leafOf setting members stated).Builds leaf
      ↔ Leaf.assignAll setting.formats {} (settings members LeafField.all) = .ok leaf := by
  have known : (withKeyword members .format () (checkFormatName setting)).Builds () := by
    obtain ⟨⟨⟩, built⟩ := withKeyword_succeeds_iff.mpr fun value present =>
      checkFormatName_succeeds_iff.mpr (registered value present)
    exact built
  simp only [LeafField.all, settings_cons, Leaf.assignAll_append]
  refine bind_builds_iff_bind
    (fun _ => assigned_builds_iff.trans (ofFields_type_eq_ok_iff_assignAll typed)) fun leaf _ => ?_
  refine bind_builds_iff_bind
    (fun _ => assignKeyword_builds_iff valued rfl (fun _ => rfl) (by decide)) fun leaf _ => ?_
  rw [bind_builds_iff_of_builds known]
  refine bind_builds_iff_bind
    (fun _ => assignKeyword_builds_iff valued rfl (fun _ => rfl) (by decide)) fun leaf _ => ?_
  refine bind_builds_iff_bind
    (fun _ => assignKeyword_builds_iff valued rfl (fun _ => rfl) (by decide)) fun leaf _ => ?_
  refine bind_builds_iff_bind
    (fun _ => assignKeyword_builds_iff valued rfl (fun _ => rfl) (by decide)) fun leaf _ => ?_
  refine bind_builds_iff_bind
    (fun _ => assignKeyword_builds_iff valued rfl (fun _ => rfl) (by decide)) fun leaf _ => ?_
  refine bind_builds_iff_bind
    (fun _ => assignKeyword_builds_iff valued rfl (fun _ => rfl) (by decide)) fun leaf _ => ?_
  refine bind_builds_iff_bind
    (fun _ => assignFlag_builds_iff valued rfl (fun _ => rfl) fun _ => rfl) fun leaf _ => ?_
  refine bind_builds_iff_bind
    (fun _ => assignFlag_builds_iff valued rfl (fun _ => rfl) fun _ => rfl) fun leaf _ => ?_
  have last := bind_pure (leaf.assignAll setting.formats (settingOf members .enumeration).toList)
  exact (assignKeyword_builds_iff valued rfl (fun _ => rfl) (by decide)).trans
    (Iff.of_eq (congrArg (· = _) last.symm))

end Leaves

-----------------------------------------------------------------------------------------
-- Arrays
-----------------------------------------------------------------------------------------

/-- What has been compiled from the definition at a keyword, if there is one. -/
def CompiledAt (setting : Setting) (members : Members) (keyword : Keyword) (child : Option Schema)
    : Prop :=
  Option.Rel (fun definition schema => (compile setting definition).Builds schema)
    (definitionAt? members keyword) child

theorem exists_compiledAt_iff {holds : Option Schema → Prop}
    : (∃ child, CompiledAt setting members keyword child ∧ holds child)
      ↔ match definitionAt? members keyword with
        | none => holds none
        | some definition =>
            ∃ schema, (compile setting definition).Builds schema ∧ holds (some schema) := by
  unfold CompiledAt
  cases definitionAt? members keyword with
  | none =>
      refine ⟨?_, fun here => ⟨none, .none, here⟩⟩
      rintro ⟨-, ⟨⟩, here⟩
      exact here
  | some definition =>
      constructor
      · rintro ⟨-, ⟨built⟩, here⟩
        exact ⟨_, built, here⟩
      · rintro ⟨schema, built, here⟩
        exact ⟨some schema, .some built, here⟩

/-- The size that a definition states, or the one that stands for no bound. -/
def sizeAt (members : Members) (keyword : Keyword)
    : Value :=
  (value? members keyword).getD (.int 0)

theorem assignItems_builds_iff {after : ArrayNode Schema} (valued : Valued members)
    : (assignItems members (childAt setting .items members) { items := Schema.anything }).Builds
        after
      ↔ ∃ items, CompiledAt setting members .items items
          ∧ after = { items := items.getD Schema.anything } := by
  rw [exists_compiledAt_iff, childAt_eq]
  unfold assignItems withKeyword definitionAt?
  cases present : value? members .items with
  | none => exact result_builds_iff.trans eq_comm
  | some value =>
      have object : isObject value := valued .items value present
      have unlisted : isList value = false := by cases value <;> first | rfl | nomatch object
      simp [object, unlisted, Option.filter_some, bind_builds_iff, under_builds_iff,
        assigned_builds_iff, ArrayNode.setItems_eq_ok_iff]

theorem assignSize_builds_iff {node after : ArrayNode Schema}
    {set : Value → Change Failure (ArrayNode Schema) Unit}
    (valued : Valued members) (sizes : ∀ value, isDocumented value keyword = isInteger value)
    (unset : (set (.int 0)).made node = .ok node)
    : (assignSize members keyword set node).Builds after
      ↔ (set (sizeAt members keyword)).made node = .ok after := by
  unfold assignSize withKeyword sizeAt
  cases present : value? members keyword with
  | none => simp [result_builds_iff, unset]
  | some value =>
      have documented : isDocumented value keyword := valued keyword value present
      rw [sizes] at documented
      simp [documented, assigned_builds_iff]

/-- The array of a documented definition is the one of its items. -/
theorem arrayOf_builds_iff {node : ArrayNode Schema} (valued : Valued members)
    : (arrayOf members (childAt setting .items members)).Builds node
      ↔ ∃ items, CompiledAt setting members .items items
          ∧ ArrayNode.ofItems (items.getD Schema.anything) (sizeAt members .minItems)
              (sizeAt members .maxItems)
            = .ok node := by
  have sized (items : Schema)
      : (do
          let node ← assignSize members .minItems ArrayNode.setMinItems { items }
          assignSize members .maxItems ArrayNode.setMaxItems node).Builds node
        ↔ ArrayNode.ofItems items (sizeAt members .minItems) (sizeAt members .maxItems)
          = .ok node := by
    refine bind_builds_iff_bind (fun _ => assignSize_builds_iff valued (fun _ => rfl) rfl)
      fun between least => assignSize_builds_iff valued (fun _ => rfl) ?_
    obtain ⟨size, -, rfl⟩ := ArrayNode.setMinItems_eq_ok_iff.mp least
    rfl
  simp only [arrayOf, bind_builds_iff, assignItems_builds_iff valued]
  simp only [← bind_builds_iff]
  constructor
  · rintro ⟨-, ⟨items, compiled, rfl⟩, made⟩
    exact ⟨items, compiled, (sized _).mp made⟩
  · rintro ⟨items, compiled, made⟩
    exact ⟨_, ⟨items, compiled, rfl⟩, (sized _).mpr made⟩

-----------------------------------------------------------------------------------------
-- Objects
-----------------------------------------------------------------------------------------

/-- A child has been compiled from a definition with a name. -/
def Compiles (setting : Setting) (entry : String × Value) (child : String × Schema)
    : Prop :=
  child.1 = entry.1 ∧ (compile setting entry.2).Builds child.2

/-- Where definitions are compiled one by one and each put into a node at once, they may all be
compiled first. By induction on the definitions. -/
theorem builds_iff_foldlM {assemble : ObjectNode Schema → List Entry → Assembly (ObjectNode Schema)}
    {add : ObjectNode Schema → String × Schema → Except Failure (ObjectNode Schema)}
    (nil : ∀ node, assemble node [] = result node)
    (cons
      : ∀ node entry rest after,
          (assemble node (entry :: rest)).Builds after
          ↔ ∃ schema, entry.schema.Builds schema
              ∧ ∃ next, add node (entry.name, schema) = .ok next
                  ∧ (assemble next rest).Builds after)
    {entries : Members} {node after : ObjectNode Schema}
    : (assemble node (entries.map (entryOf setting))).Builds after
      ↔ ∃ children, List.Forall₂ (Compiles setting) entries children
          ∧ children.foldlM add node = .ok after := by
  induction entries generalizing node with
  | nil => simp [nil, result_builds_iff, pure_eq_ok_iff]
  | cons entry rest ih =>
      rw [List.map_cons, cons]
      simp only [ih, List.forall₂_cons_left_iff, entryOf]
      constructor
      · rintro ⟨schema, compiled, next, added, children, each, done⟩
        refine ⟨(entry.1, schema) :: children, ⟨_, _, ⟨rfl, compiled⟩, each, rfl⟩, ?_⟩
        rw [List.foldlM_cons, added]
        exact done
      · rintro ⟨-, ⟨⟨name, schema⟩, children, ⟨rfl, compiled⟩, each, rfl⟩, done⟩
        obtain ⟨next, added, done⟩ := bind_eq_ok_iff.mp done
        exact ⟨schema, compiled, next, added, children, each, done⟩

theorem addProperties_builds_iff {entries : Members} {node after : ObjectNode Schema}
    : (addProperties node (entries.map (entryOf setting))).Builds after
      ↔ ∃ children, List.Forall₂ (Compiles setting) entries children
          ∧ children.foldlM ObjectNode.declaring node = .ok after :=
  builds_iff_foldlM (fun _ => rfl) fun node entry rest after => by
    simp only [addProperties, bind_builds_iff, under_builds_iff, assigned_builds_iff]
    rfl

theorem addPatterns_builds_iff {entries : Members} {node after : ObjectNode Schema}
    : (addPatterns node (entries.map (entryOf setting))).Builds after
      ↔ ∃ children, List.Forall₂ (Compiles setting) entries children
          ∧ children.foldlM ObjectNode.matching node = .ok after :=
  builds_iff_foldlM (fun _ => rfl) fun node entry rest after => by
    simp only [addPatterns, bind_builds_iff, under_builds_iff, assigned_builds_iff]
    rfl

/-- The names that a documented definition requires are those of members that call themselves so,
and those that it lists. -/
theorem requiredIn_builds_iff {names : List Value} (valued : Valued members)
    : (requiredIn members).Builds names ↔ names = flaggedNames members ++ listedNames members := by
  have listed : (listedRequired members).Builds (listedNames members) := by
    unfold listedRequired withKeyword listedNames
    cases present : value? members .required with
    | none => rfl
    | some value =>
        have documented : isDocumented value .required := valued .required value present
        cases value with
        | bool flag => rfl
        | array form names =>
            cases form with
            | list => rfl
            | tuple => nomatch documented
        | _ => nomatch documented
  rw [requiredIn, bind_builds_iff_of_builds listed, result_builds_iff, eq_comm]

theorem expectObject_builds (fits : Given members keyword fun value => isObject value)
    : (expectObject members keyword).Builds () := by
  obtain ⟨⟨⟩, built⟩ := expectObject_succeeds_iff.mpr fits
  exact built

/-- What a definition says of additional members where no definition stands for them. -/
def policyAt (members : Members)
    : Value :=
  (value? members .additionalProperties).getD (.bool true)

theorem assignAdditional_builds_iff {node after : ObjectNode Schema} (valued : Valued members)
    (unset : node.additional = .allow)
    : (assignAdditional members (childAt setting .additionalProperties members) node).Builds after
      ↔ ∃ child, CompiledAt setting members .additionalProperties child
          ∧ (ObjectNode.setAdditional (.orElse (policyAt members) child)).made node
            = .ok after := by
  rw [exists_compiledAt_iff, childAt_eq]
  unfold assignAdditional withKeyword definitionAt? policyAt
  cases present : value? members .additionalProperties with
  | none =>
      have allowed : (ObjectNode.setAdditional (.stray (.bool true))).made node = .ok node :=
        ObjectNode.setAdditional_eq_ok_iff.mpr ⟨.allow, rfl, by rw [← unset]⟩
      simp [allowed, Slot.orElse, result_builds_iff]
  | some value =>
      have documented : isDocumented value .additionalProperties := valued _ value present
      cases value with
      | bool flag => exact assigned_builds_iff
      | object inner =>
          simp [Slot.orElse, isObject, Option.filter_some, bind_builds_iff, under_builds_iff,
            assigned_builds_iff]
      | _ => cases documented

/-- The object of a documented definition is the one of its children. -/
theorem objectOf_builds_iff {node : ObjectNode Schema} (valued : Valued members)
    : (objectOf members (entriesAt setting .properties members)
        (entriesAt setting .patternProperties members)
        (childAt setting .additionalProperties members)).Builds node
      ↔ ∃ properties patterns child,
          List.Forall₂ (Compiles setting) (definitionsIn members .properties) properties
          ∧ List.Forall₂ (Compiles setting) (definitionsIn members .patternProperties) patterns
          ∧ CompiledAt setting members .additionalProperties child
          ∧ ObjectNode.ofChildren properties (flaggedNames members ++ listedNames members) patterns
              (.orElse (policyAt members) child)
            = .ok node := by
  rw [objectOf_eq, entriesAt_eq, bind_builds_iff_of_builds (expectObject_builds (valued _))]
  simp only [bind_builds_iff, addProperties_builds_iff, requiredIn_builds_iff valued,
    assigned_builds_iff, exists_eq_left, addPatterns_builds_iff]
  -- Nothing is said of additional members before it is their turn.
  have unset {declared listed matched : ObjectNode Schema}
      {properties patterns : List (String × Schema)} {names : Value}
      (declares : properties.foldlM ObjectNode.declaring {} = .ok declared)
      (lists : (ObjectNode.setRequired names).made declared = .ok listed)
      (adds : patterns.foldlM ObjectNode.matching listed = .ok matched)
      : matched.additional = .allow := by
    obtain ⟨-, _, required, -, -, rfl⟩ := ObjectNode.setRequired_eq_ok_iff.mp lists
    exact (ObjectNode.additional_of_foldlM ObjectNode.additional_of_matching adds).trans
      (ObjectNode.additional_of_foldlM ObjectNode.additional_of_declaring declares)
  constructor
  · rintro ⟨declared, ⟨properties, eachProperty, declares⟩, listed, lists, -, -, matched,
      ⟨patterns, eachPattern, adds⟩, sets⟩
    obtain ⟨child, compiled, sets⟩ :=
      (assignAdditional_builds_iff valued (unset declares lists adds)).mp sets
    refine ⟨properties, patterns, child, eachProperty, eachPattern, compiled, ?_⟩
    rw [ObjectNode.ofChildren, declares, ok_bind, lists, ok_bind, adds]
    exact sets
  · rintro ⟨properties, patterns, child, eachProperty, eachPattern, compiled, made⟩
    simp only [ObjectNode.ofChildren, bind_eq_ok_iff] at made
    obtain ⟨declared, declares, listed, lists, matched, adds, sets⟩ := made
    exact ⟨declared, ⟨properties, eachProperty, declares⟩, listed, lists, (),
      expectObject_builds (valued _), matched, ⟨patterns, eachPattern, adds⟩,
      (assignAdditional_builds_iff valued (unset declares lists adds)).mpr ⟨child, compiled, sets⟩⟩

end Assay.Definition
