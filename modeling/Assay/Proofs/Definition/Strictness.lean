import Assay.Incident
import Assay.Proofs.Definition.Acceptance
import Assay.Proofs.Definition.Tracing

/-! Compiling with unregistered formats taken and with them refused. The second goes as the first
does up to the first leaf in order whose format is not registered, and there it is refused.
-/

namespace Assay.Definition
open Assembly

variable {α β : Type} {formats : FormatRegistry} {setting : Setting} {members : Members}

-----------------------------------------------------------------------------------------
-- Unregistered formats
-----------------------------------------------------------------------------------------

/-- What a definition gives as the format of a leaf. A definition of a container has none. -/
def leafFormat?
    : Value → Option Value
  | .object members =>
      if typeWord? members = some SchemaKind.array.word
          ∨ typeWord? members = some SchemaKind.object.word then none
      else value? members .format
  | _ => none

/-- The format of a leaf, where it is a name that is not registered. -/
def unregistered? (formats : FormatRegistry) (definition : Value)
    : Option Value :=
  (leafFormat? definition).filter fun format => format.text?.any (!formats.isRegistered ·)

/-- The first of some definitions that has an unregistered format: the path to it, and the
format. -/
def firstUnregistered? (formats : FormatRegistry) (order : List (Path × Value))
    : Option (Path × Value) :=
  order.findSome? fun entry => (unregistered? formats entry.2).map (entry.1, ·)

theorem unregistered?_eq_none_iff {definition : Value}
    : unregistered? formats definition = none
      ↔ ∀ format,
          leafFormat? definition = some format
          → ∀ name, format.text? = some name → formats.isRegistered name := by
  simp only [unregistered?, Option.filter_eq_none_iff]
  refine forall₂_congr fun format _ => ?_
  cases format.text? <;> simp

theorem firstUnregistered?_eq_none_iff {order : List (Path × Value)}
    : firstUnregistered? formats order = none
      ↔ ∀ entry ∈ order, unregistered? formats entry.2 = none := by
  simp [firstUnregistered?]

/-- None before the first definition with an unregistered format has one. -/
theorem firstUnregistered?_eq_some_iff {order : List (Path × Value)} {path : Path} {format : Value}
    : firstUnregistered? formats order = some (path, format)
      ↔ ∃ before inner later,
          order = before ++ (path, inner) :: later
          ∧ unregistered? formats inner = some format
          ∧ ∀ entry ∈ before, unregistered? formats entry.2 = none := by
  simp only [firstUnregistered?, List.findSome?_eq_some_iff, Option.map_eq_some_iff,
    Option.map_eq_none_iff, Prod.mk.injEq]
  constructor
  · rintro ⟨before, ⟨_, inner⟩, later, rfl, ⟨_, found, rfl, rfl⟩, none⟩
    exact ⟨before, inner, later, rfl, found, none⟩
  · rintro ⟨before, inner, later, rfl, found, none⟩
    exact ⟨before, (path, inner), later, rfl, ⟨format, found, rfl, rfl⟩, none⟩

theorem firstUnregistered?_append (early late : List (Path × Value))
    : firstUnregistered? formats (early ++ late)
      = (firstUnregistered? formats early).or (firstUnregistered? formats late) :=
  List.findSome?_append

theorem firstUnregistered?_under (step : Step) (order : List (Path × Value))
    : firstUnregistered? formats (order.map (entryUnder step))
      = (firstUnregistered? formats order).map (entryUnder step) := by
  simp only [firstUnregistered?, List.findSome?_map, Function.comp_def, entryUnder]
  rw [List.map_findSome?]
  simp [Function.comp_def, entryUnder]

-----------------------------------------------------------------------------------------
-- Two assemblies side by side
-----------------------------------------------------------------------------------------

/-- What becomes of an assembly of definitions in order that builds a value, where unregistered
formats are refused. -/
def restricted (formats : FormatRegistry) (order : List (Path × Value)) (value : α)
    : Except Obstruction α :=
  match firstUnregistered? formats order with
  | some (path, format) =>
      .error (.refused path (.ofDefinition (.unknownFormat format.display)))
  | none => .ok value

/-- One assembly of definitions in order is another one with unregistered formats refused: it builds
nothing that the other one does not, and wherever the other one builds something, it does so too
or is refused for the first unregistered format. -/
structure Restricts (formats : FormatRegistry) (order : List (Path × Value))
    (strict lenient : Assembly α) : Prop where
  builds : ∀ value, strict.Builds value → lenient.Builds value
  outcome : ∀ value, lenient.Builds value → strict.outcome = restricted formats order value

/-- What comes behind an assembly that builds something decides. -/
theorem outcome_bind_of_builds {assembly : Assembly α} {next : α → Assembly β} {value : α}
    (built : assembly.Builds value)
    : (assembly >>= next).outcome = (next value).outcome := by
  obtain ⟨completed, outcome⟩ := assembly
  obtain rfl : outcome = .ok value := built
  rfl

theorem outcome_bind_of_error {assembly : Assembly α} {next : α → Assembly β}
    {obstruction : Obstruction} (failed : assembly.outcome = .error obstruction)
    : (assembly >>= next).outcome = .error obstruction := by
  obtain ⟨completed, outcome⟩ := assembly
  obtain rfl : outcome = .error obstruction := failed
  rfl

namespace Restricts

variable {order early late : List (Path × Value)} {strict lenient : Assembly α}

/-- An assembly that is the same in both cases reads no unregistered format. -/
theorem same (none : firstUnregistered? formats order = none) (assembly : Assembly α)
    : Restricts formats order assembly assembly where
  builds _ built := built
  outcome value built := by rw [restricted, none, built]

theorem bare (assembly : Assembly α)
    : Restricts formats [] assembly assembly :=
  .same rfl assembly

theorem refuse (refusal : Refusal)
    : Restricts formats order (refuse refusal : Assembly α) (Assembly.refuse refusal) where
  builds _ built := built
  outcome _ built := absurd built not_refuse_builds

/-- In a row, the first unregistered format of the first assembly comes first; if it has none, it
builds the same in both cases, and the second one decides. -/
theorem bind {next next' : α → Assembly β} (first : Restricts formats early strict lenient)
    (second : ∀ value, lenient.Builds value → Restricts formats late (next value) (next' value))
    : Restricts formats (early ++ late) (strict >>= next) (lenient >>= next') where
  builds value built := by
    obtain ⟨between, here, rest⟩ := bind_builds_iff.mp built
    have here := first.builds between here
    exact bind_builds_iff.mpr ⟨between, here, (second between here).builds value rest⟩
  outcome value built := by
    obtain ⟨between, here, rest⟩ := bind_builds_iff.mp built
    have outcome := first.outcome between here
    unfold restricted at outcome ⊢
    rw [firstUnregistered?_append]
    cases found : firstUnregistered? formats early with
    | some entry =>
        rw [found] at outcome
        exact outcome_bind_of_error outcome
    | none =>
        rw [found] at outcome
        rw [outcome_bind_of_builds outcome]
        exact (second between here).outcome value rest

/-- What is the same in both cases may come before everything else. -/
theorem behind {assembly : Assembly α} {next next' : α → Assembly β}
    (second : ∀ value, assembly.Builds value → Restricts formats order (next value) (next' value))
    : Restricts formats order (assembly >>= next) (assembly >>= next') :=
  (bare assembly).bind second

/-- What is the same in both cases may come behind everything else. -/
theorem thenBare {next : α → Assembly β} (first : Restricts formats order strict lenient)
    : Restricts formats order (strict >>= next) (lenient >>= next) := by
  have all := first.bind fun value _ => bare (next value)
  rwa [List.append_nil] at all

/-- The refusal of an unregistered format is an error of a definition, which passes where errors are
caught. -/
theorem caught (restricts : Restricts formats order strict lenient)
    : Restricts formats order strict.caught lenient.caught where
  builds value built :=
    caught_builds_iff.mpr (restricts.builds value (caught_builds_iff.mp built))
  outcome value built := by
    have outcome := restricts.outcome value (caught_builds_iff.mp built)
    unfold restricted at outcome ⊢
    cases found : firstUnregistered? formats order with
    | some entry =>
        rw [found] at outcome
        rw [Assembly.caught, outcome]
        rfl
    | none =>
        rw [found] at outcome
        rw [Assembly.caught, outcome]
        rfl

/-- Both assemblies seen from one step further up. -/
theorem under (step : Step) (restricts : Restricts formats order strict lenient)
    : Restricts formats (order.map (entryUnder step)) (strict.under step) (lenient.under step) where
  builds value built := under_builds_iff.mpr (restricts.builds value (under_builds_iff.mp built))
  outcome value built := by
    have outcome := restricts.outcome value (under_builds_iff.mp built)
    unfold restricted at outcome ⊢
    rw [firstUnregistered?_under]
    cases found : firstUnregistered? formats order with
    | some entry =>
        rw [found] at outcome
        simp [Assembly.under, outcome, Obstruction.under, entryUnder]
    | none =>
        rw [found] at outcome
        simp [Assembly.under, outcome]

end Restricts

-----------------------------------------------------------------------------------------
-- Strict and lenient settings
-----------------------------------------------------------------------------------------

/-- The setting in which registered formats alone are taken. -/
def Setting.strict (setting : Setting)
    : Setting :=
  { setting with strictFormats := true }

/-- The setting in which unregistered formats are taken as well. -/
def Setting.lenient (setting : Setting)
    : Setting :=
  { setting with strictFormats := false }

/-- A definition compiles strictly as it does leniently, up to the first unregistered format. -/
def Agreeing (setting : Setting) (definition : Value)
    : Prop :=
  Restricts setting.formats (inOrder definition) (compile setting.strict definition)
    (compile setting.lenient definition)

-----------------------------------------------------------------------------------------
-- Leaves
-----------------------------------------------------------------------------------------

/-- The name of a format is looked up in the registry in one of the settings alone. -/
theorem checkFormatName_restricts (leaf : leafFormat? (.object members) = value? members .format)
    : Restricts setting.formats [([], .object members)]
        (withKeyword members .format () (checkFormatName setting.strict))
        (withKeyword members .format () (checkFormatName setting.lenient)) := by
  unfold withKeyword
  cases given : value? members .format with
  | none =>
      refine .same ?_ _
      simp [firstUnregistered?, unregistered?, leaf, given]
  | some format =>
      have found : firstUnregistered? setting.formats [([], .object members)]
          = (unregistered? setting.formats (.object members)).map ([], ·) := by
        simp [firstUnregistered?]
      rw [unregistered?, leaf, given] at found
      cases known : format.text?.any (!setting.formats.isRegistered ·) with
      | false =>
          have taken : checkFormatName setting.strict format = result () := by
            cases reads : format.text? <;>
              simp_all [checkFormatName, Setting.strict]
          refine ⟨fun _ _ => rfl, fun value _ => ?_⟩
          simp only [taken, restricted, found, known, Option.filter_some]
          rfl
      | true =>
          have refused : checkFormatName setting.strict format
              = Assembly.refuse (.unknownFormat format.display) := by
            cases reads : format.text? <;>
              simp_all [checkFormatName, Setting.strict]
          refine ⟨fun _ built => ?_, fun value _ => ?_⟩
          · dsimp only at built
            rw [refused] at built
            exact absurd built not_refuse_builds
          · simp only [refused, restricted, found, known, Option.filter_some]
            rfl

/-- A leaf is made alike, but for the name of its format. -/
theorem leafOf_restricts (leaf : leafFormat? (.object members) = value? members .format)
    (stated : Value)
    : Restricts setting.formats [([], .object members)]
        (leafOf setting.strict members stated) (leafOf setting.lenient members stated) := by
  refine .behind fun _ _ => ?_
  refine .behind fun _ _ => ?_
  exact (checkFormatName_restricts leaf).thenBare

-----------------------------------------------------------------------------------------
-- Containers
-----------------------------------------------------------------------------------------

theorem Agreeing.under {inner : Value} (agrees : Agreeing setting inner) (step : Step)
    : Restricts setting.formats (orderOf [(step, inner)])
        ((compile setting.strict inner).under step)
        ((compile setting.lenient inner).under step) := by
  have order : orderOf [(step, inner)] = (inOrder inner).map (entryUnder step) := by
    simp [orderOf]
  exact order ▸ Restricts.under step agrees

theorem assignItems_restricts
    (inside : ∀ inner, Inside inner (.object members) → Agreeing setting inner)
    (node : ArrayNode Schema)
    : Restricts setting.formats (orderOf (itemsInside members))
        (assignItems members (childAt setting.strict .items members) node)
        (assignItems members (childAt setting.lenient .items members) node) := by
  unfold assignItems withKeyword itemsInside
  rw [childAt_eq, childAt_eq]
  cases present : value? members .items with
  | none => exact .bare _
  | some value =>
      by_cases list : isList value
      · simp only [list, if_true]
        exact .refuse _
      · simp only [list, Bool.not_false, Option.filter_some, Option.map_some]
        exact ((inside value (.child present)).under .items).thenBare

theorem arrayOf_restricts
    (inside : ∀ inner, Inside inner (.object members) → Agreeing setting inner)
    : Restricts setting.formats (orderOf (itemsInside members))
        (arrayOf members (childAt setting.strict .items members))
        (arrayOf members (childAt setting.lenient .items members)) :=
  (assignItems_restricts inside _).thenBare

/-- Members are declared alike up to the first unregistered format, by induction on their
definitions. -/
theorem addProperties_restricts {entries : Members}
    (each : ∀ entry ∈ entries, Agreeing setting entry.2) (node : ObjectNode Schema)
    : Restricts setting.formats
        (orderOf (entries.map fun entry => (.property entry.1, entry.2)))
        (addProperties node (entries.map (entryOf setting.strict)))
        (addProperties node (entries.map (entryOf setting.lenient))) := by
  induction entries generalizing node with
  | nil =>
      rw [List.map_nil, List.map_nil, List.map_nil]
      exact .bare _
  | cons entry rest ih =>
      rw [List.map_cons, List.map_cons, List.map_cons, orderOf_cons, addProperties, addProperties]
      dsimp only [entryOf]
      refine ((each entry List.mem_cons_self).under (.property entry.1)).bind fun _ _ => ?_
      refine .behind fun node _ => ?_
      exact ih (fun entry member => each entry (List.mem_cons_of_mem _ member)) node

theorem addPatterns_restricts {entries : Members}
    (each : ∀ entry ∈ entries, Agreeing setting entry.2) (node : ObjectNode Schema)
    : Restricts setting.formats
        (orderOf (entries.map fun entry => (.pattern entry.1, entry.2)))
        (addPatterns node (entries.map (entryOf setting.strict)))
        (addPatterns node (entries.map (entryOf setting.lenient))) := by
  induction entries generalizing node with
  | nil =>
      rw [List.map_nil, List.map_nil, List.map_nil]
      exact .bare _
  | cons entry rest ih =>
      rw [List.map_cons, List.map_cons, List.map_cons, orderOf_cons, addPatterns, addPatterns]
      dsimp only [entryOf]
      refine ((each entry List.mem_cons_self).under (.pattern entry.1)).bind fun _ _ => ?_
      refine .behind fun node _ => ?_
      exact ih (fun entry member => each entry (List.mem_cons_of_mem _ member)) node

theorem assignAdditional_restricts
    (inside : ∀ inner, Inside inner (.object members) → Agreeing setting inner)
    (node : ObjectNode Schema)
    : Restricts setting.formats (orderOf (additionalInside members))
        (assignAdditional members (childAt setting.strict .additionalProperties members) node)
        (assignAdditional members (childAt setting.lenient .additionalProperties members) node)
    := by
  unfold assignAdditional withKeyword additionalInside
  rw [childAt_eq, childAt_eq]
  cases present : value? members .additionalProperties with
  | none => exact .bare _
  | some value =>
      cases value with
      | bool allowed => exact .bare _
      | object inner => exact ((inside (.object inner) (.child present)).under .additional).thenBare
      | _ => exact .refuse _

theorem objectOf_restricts
    (inside : ∀ inner, Inside inner (.object members) → Agreeing setting inner)
    : Restricts setting.formats
        (orderOf (propertiesInside members ++ patternsInside members ++ additionalInside members))
        (objectOf members (entriesAt setting.strict .properties members)
          (entriesAt setting.strict .patternProperties members)
          (childAt setting.strict .additionalProperties members))
        (objectOf members (entriesAt setting.lenient .properties members)
          (entriesAt setting.lenient .patternProperties members)
          (childAt setting.lenient .additionalProperties members)) := by
  have listed (keyword : Keyword)
      : ∀ entry ∈ definitionsIn members keyword, Agreeing setting entry.2 :=
    fun entry member => inside entry.2 (.entry member)
  simp only [objectOf, entriesAt_eq, flagged_eq]
  rw [List.append_assoc, orderOf_append, orderOf_append]
  refine .behind fun _ _ => ?_
  refine (addProperties_restricts (listed .properties) _).bind fun node _ => ?_
  refine .behind fun names _ => ?_
  refine .behind fun node _ => ?_
  refine .behind fun _ _ => ?_
  refine (addPatterns_restricts (listed .patternProperties) _).bind fun node _ => ?_
  exact assignAdditional_restricts inside node

-----------------------------------------------------------------------------------------
-- Definitions
-----------------------------------------------------------------------------------------

/-- What goes on behind keywords that are refused may rely on their absence. -/
theorem Restricts.placed {order : List (Path × Value)} {typeName : String}
    {keywords : List Keyword} {next next' : Unit → Assembly α}
    (behind : Lacks members keywords → Restricts formats order (next ()) (next' ()))
    : Restricts formats order (rejectKeywords members typeName keywords >>= next)
        (rejectKeywords members typeName keywords >>= next') :=
  .behind fun _ built => behind (rejectKeywords_succeeds_iff.mp ⟨(), built⟩)

/-- A container comes behind the definitions inside it, and has no format itself. -/
theorem Restricts.container {kind : SchemaKind} (container : kind ≠ .simple)
    (typed : typeWord? members = some kind.word) {strict lenient : Assembly α}
    {schema : α → Schema}
    (restricts : Restricts formats (orderOf (directlyInside members)) strict lenient)
    : Restricts formats (inOrder (.object members))
        (strict >>= fun value => complete (schema value))
        (lenient >>= fun value => complete (schema value)) := by
  rw [inOrder_object]
  refine restricts.bind fun value _ => .same ?_ _
  cases kind with
  | simple => exact absurd rfl container
  | array | object => simp [firstUnregistered?, unregistered?, leafFormat?, typed]

/-- A type that is not the word of a container has that of a leaf, which may have a format. -/
theorem leafFormat?_of_leaf {stated : Value} (typed : typeWord? members = stated.text?)
    (array : stated.display ≠ SchemaKind.array.word)
    (object : stated.display ≠ SchemaKind.object.word)
    : leafFormat? (.object members) = value? members .format := by
  refine if_neg ?_
  rintro (word | word)
  · exact array (display_of_text (typed.symm.trans word))
  · exact object (display_of_text (typed.symm.trans word))

/-- Every definition compiles strictly as it does leniently, up to the first unregistered format, by
induction on the definitions inside. -/
theorem compile_agreeing (setting : Setting) (definition : Value)
    : Agreeing setting definition := by
  induction definition using insideInduction with
  | step definition inside =>
      cases definition with
      | object members =>
          unfold Agreeing
          rw [compile, compile]
          by_cases referenced : (value? members .reference).isSome
          · rw [if_pos referenced, if_pos referenced]
            exact .refuse _
          · rw [if_neg referenced, if_neg referenced]
            refine .behind fun stated built => .caught ?_
            obtain ⟨text, typed⟩ := typeOf_builds built
            by_cases array : stated.display = SchemaKind.array.word
            · rw [if_pos array, if_pos array]
              refine .placed fun placed => ?_
              refine .container (by decide) (typed.trans (text_of_display text array)) ?_
              rw [directlyInside_of_array placed.right]
              exact arrayOf_restricts inside
            · rw [if_neg array, if_neg array]
              by_cases object : stated.display = SchemaKind.object.word
              · rw [if_pos object, if_pos object]
                refine .placed fun placed => ?_
                refine .container (by decide) (typed.trans (text_of_display text object)) ?_
                rw [directlyInside_of_object placed.right]
                exact objectOf_restricts inside
              · rw [if_neg object, if_neg object]
                refine .placed fun placed => .behind fun _ _ => ?_
                rw [inOrder_object, directlyInside_of_leaf placed.left placed.right]
                exact (leafOf_restricts (leafFormat?_of_leaf typed array object) stated).thenBare
      | _ => exact .refuse _

-----------------------------------------------------------------------------------------
-- The effect of strictness
-----------------------------------------------------------------------------------------

/-- What stands at a path inside a definition comes in its order, by induction on the path. -/
theorem mem_inOrder_of_standsAt {definition inner : Value} {path : Path}
    (stands : StandsAt definition path inner)
    : (path, inner) ∈ inOrder definition := by
  induction stands with
  | here definition =>
      cases definition with
      | object members =>
          rw [inOrder_object]
          exact List.mem_append_right _ List.mem_cons_self
      | _ => simp [inOrder]
  | further direct _ ih =>
      rw [inOrder_object]
      refine List.mem_append_left _ (List.mem_flatMap.mpr ⟨_, direct, ?_⟩)
      exact List.mem_map.mpr ⟨_, ih, rfl⟩

theorem restricted_eq_ok_iff {order : List (Path × Value)} {value other : α}
    : restricted formats order value = .ok other
      ↔ firstUnregistered? formats order = none ∧ value = other := by
  unfold restricted
  cases firstUnregistered? formats order with
  | none => simp
  | some entry => simp

/-- Compiling strictly only refuses definitions: it succeeds exactly where compiling leniently does
and all names of formats on leaves inside the definition are registered. The trees are then the
same, and find the same in every document. Where the strict setting alone fails, the definition that
is refused is the first leaf in order whose format is not registered, for that keyword and with the
path to it. -/
theorem strict_refuses_unregistered_formats (setting : Setting) (definition : Value)
    : ((compile setting.strict definition).Succeeds
        ↔ (compile setting.lenient definition).Succeeds
          ∧ ∀ path inner,
              StandsAt definition path inner
              → ∀ format,
                  leafFormat? inner = some format
                  → ∀ name, format.text? = some name → setting.formats.isRegistered name)
      ∧ (∀ schema other,
          (compile setting.strict definition).Builds schema
          → (compile setting.lenient definition).Builds other
          → schema = other
            ∧ ∀ registries document,
                schema.check registries document = other.check registries document)
      ∧ ((compile setting.lenient definition).Succeeds
        → ¬(compile setting.strict definition).Succeeds
        → ∃ before path inner later format,
            inOrder definition = before ++ (path, inner) :: later
            ∧ unregistered? setting.formats inner = some format
            ∧ (∀ entry ∈ before, unregistered? setting.formats entry.2 = none)
            ∧ (compile setting.strict definition).outcome
              = .error (.refused path (.ofDefinition (.unknownFormat format.display)))
            ∧ (Incident.ofRejection path (.ofDefinition (.unknownFormat format.display))).rank
              = .compilation
            ∧ (Incident.ofRejection path (.ofDefinition (.unknownFormat format.display))).keyword
              = some "format"
            ∧ (Incident.ofRejection path (.ofDefinition (.unknownFormat format.display))).path
              = path.text) := by
  obtain ⟨builds, outcome⟩ := compile_agreeing setting definition
  refine ⟨⟨?_, ?_⟩, ?_, ?_⟩
  · rintro ⟨schema, built⟩
    have lenient := builds schema built
    refine ⟨⟨schema, lenient⟩, fun path inner stands => ?_⟩
    have none := (restricted_eq_ok_iff.mp ((outcome schema lenient).symm.trans built)).1
    exact unregistered?_eq_none_iff.mp
      (firstUnregistered?_eq_none_iff.mp none _ (mem_inOrder_of_standsAt stands))
  · rintro ⟨⟨schema, built⟩, known⟩
    refine ⟨schema, (outcome schema built).trans (restricted_eq_ok_iff.mpr ⟨?_, rfl⟩)⟩
    refine firstUnregistered?_eq_none_iff.mpr fun entry listed => unregistered?_eq_none_iff.mpr ?_
    exact known entry.1 entry.2 (standsAt_of_mem_inOrder listed)
  · intro schema other strict lenient
    obtain rfl := Except.ok.inj ((builds schema strict).symm.trans lenient)
    exact ⟨rfl, fun _ _ => rfl⟩
  · rintro ⟨schema, built⟩ fails
    have ends := outcome schema built
    unfold restricted at ends
    cases found : firstUnregistered? setting.formats (inOrder definition) with
    | none =>
        rw [found] at ends
        exact absurd ⟨schema, ends⟩ fails
    | some entry =>
        obtain ⟨path, format⟩ := entry
        rw [found] at ends
        obtain ⟨before, inner, later, order, here, none⟩ := firstUnregistered?_eq_some_iff.mp found
        exact ⟨before, path, inner, later, format, order, here, none, ends, rfl, rfl, rfl⟩

/-- A pattern of members with an unregistered format stands before declared members: one with a
registered format, and an array whose items have an unregistered one. -/
def unregisteredFormats : Value :=
  .object
    [("type", .string "object"),
      ("patternProperties",
        .object [("^x", .object [("type", .string "string"), ("format", .string "colour")])]),
      ("properties",
        .object
          [("home", .object [("type", .string "string"), ("format", .string "uri")]),
            ("tags",
              .object
                [("type", .string "array"),
                  ("items", .object [("type", .string "string"), ("format", .string "tag")])])])]

/-- The items are refused, since declared members come first. -/
theorem strict_refuses_items_of_member
    : (compile (Setting.lenient ⟨true, 0, .builtIn⟩) unregisteredFormats).Succeeds
      ∧ ¬(compile (Setting.strict ⟨true, 0, .builtIn⟩) unregisteredFormats).Succeeds
      ∧ ∃ before inner later format,
          inOrder unregisteredFormats
            = before ++ ([.property "tags", .items], inner) :: later
          ∧ unregistered? .builtIn inner = some format
          ∧ (∀ entry ∈ before, unregistered? .builtIn entry.2 = none)
          ∧ format.display = "tag" := by
  have refused : (compile (Setting.strict ⟨true, 0, .builtIn⟩) unregisteredFormats).outcome
      = .error
          (.refused [.property "tags", .items] (.ofDefinition (.unknownFormat "tag"))) := rfl
  have fails : ¬(compile (Setting.strict ⟨true, 0, .builtIn⟩) unregisteredFormats).Succeeds := by
    rintro ⟨schema, built⟩
    nomatch refused.symm.trans built
  obtain ⟨-, -, first⟩ :=
    strict_refuses_unregistered_formats ⟨true, 0, .builtIn⟩ unregisteredFormats
  have succeeds : (compile (Setting.lenient ⟨true, 0, .builtIn⟩) unregisteredFormats).Succeeds :=
    ⟨_, rfl⟩
  obtain ⟨before, path, inner, later, format, order, here, none, ends, -⟩ := first succeeds fails
  obtain ⟨rfl, same⟩ := Obstruction.refused.inj (Except.error.inj (refused.symm.trans ends))
  exact ⟨succeeds, fails, before, inner, later, format, order, here, none,
    (Refusal.unknownFormat.inj (Rejection.ofDefinition.inj same)).symm⟩

end Assay.Definition
