import Assay.Proofs.Definition.Tracing
import Assay.Proofs.Definition.Verdicts

/-! What a compilation has completed when it ends, however it ends: the first definitions in order,
which are exactly the well-formed ones among those that it gets to.
-/

namespace Assay.Definition
open Assembly

variable {α β : Type} {setting : Setting} {members : Members}

-----------------------------------------------------------------------------------------
-- Definitions that are completed
-----------------------------------------------------------------------------------------

/-- With the head of an object, compiling a definition gets to one directly inside it once
everything before that one has been declared or added. -/
inductive GetsToMember (setting : Setting) (members : Members) : Step → Value → Prop
  | property {before entry after}
    (listed : definitionsIn members .properties = before ++ entry :: after)
    (earlier : Declarable setting before)
    : GetsToMember setting members (.property entry.1) entry.2
  | pattern {before entry after} (reached : GetsToPatterns setting members)
    (listed : definitionsIn members .patternProperties = before ++ entry :: after)
    (earlier : Matchable setting before)
    : GetsToMember setting members (.pattern entry.1) entry.2
  | additional {inner} (reached : GetsToPatterns setting members)
    (matched : Matchable setting (definitionsIn members .patternProperties))
    (present : value? members .additionalProperties = some inner)
    (object : isObject inner)
    : GetsToMember setting members .additional inner

/-- Compiling a definition gets to one directly inside it. -/
inductive GetsTo (setting : Setting) (members : Members) : Step → Value → Prop
  | items {inner}
    (headed : Headed members SchemaKind.array.word (Keyword.ofLeaves ++ Keyword.ofObjects))
    (present : value? members .items = some inner)
    (single : isList inner = false)
    : GetsTo setting members .items inner
  | member {step inner}
    (headed : Headed members SchemaKind.object.word (Keyword.ofLeaves ++ Keyword.ofArrays))
    (reached : GetsToMember setting members step inner)
    : GetsTo setting members step inner

/-- A definition is completed at a path when another one is compiled: it is well formed, and
compiling gets to it along the path. -/
inductive Completes (setting : Setting) : Value → Path → Value → Prop
  | here {definition} (wellFormed : WellFormed setting definition)
    : Completes setting definition [] definition
  | further {members step between path inner} (reached : GetsTo setting members step between)
    (rest : Completes setting between path inner)
    : Completes setting (.object members) (step :: path) inner

/-- The kind of the schema that a definition is compiled to, by the type that it states. -/
def statedKind
    : Value → SchemaKind
  | .object members =>
      if typeWord? members = some SchemaKind.array.word then .array
      else if typeWord? members = some SchemaKind.object.word then .object
      else .simple
  | _ => .simple

/-- The part that stands for a definition at a path once it has been completed. -/
def partOf (entry : Path × Value)
    : Completed :=
  ⟨statedKind entry.2, entry.1⟩

/-- What a definition compiles to is of the kind that it states. -/
theorem kind_of_builds {definition : Value} {schema : Schema}
    (built : (compile setting definition).Builds schema)
    : schema.kind = statedKind definition := by
  cases compile_reads built with
  | leaf reads =>
      have other (kind : SchemaKind) (container : kind ≠ .simple)
          : typeWord? _ ≠ some kind.word :=
        fun typed => not_leaf_of_container container typed reads.type
      rw [statedKind, if_neg (other .array (by decide)), if_neg (other .object (by decide))]
      rfl
  | array typed =>
      rw [statedKind, if_pos typed]
      rfl
  | object typed =>
      rw [statedKind, typed, if_neg (by decide), if_pos rfl]
      rfl

-----------------------------------------------------------------------------------------
-- Completing the first definitions in order
-----------------------------------------------------------------------------------------

/-- An assembly completes the first of some definitions in order, exactly those that it reaches,
and all of them if it succeeds. -/
def CompletesFirst (order : List (Path × Value)) (reached : Path × Value → Prop)
    (assembly : Assembly α)
    : Prop :=
  ∃ done rest,
    order = done ++ rest
    ∧ assembly.completed = done.map partOf
    ∧ (∀ entry, entry ∈ done ↔ reached entry)
    ∧ (assembly.Succeeds → rest = [])

namespace CompletesFirst

variable {order early late : List (Path × Value)} {reached other : Path × Value → Prop}
  {assembly : Assembly α} {next : α → Assembly β} {step : Step}

theorem congr (same : ∀ entry, reached entry ↔ other entry)
    (first : CompletesFirst order reached assembly)
    : CompletesFirst order other assembly := by
  obtain ⟨done, rest, split, completed, mem, all⟩ := first
  exact ⟨done, rest, split, completed, fun entry => (mem entry).trans (same entry), all⟩

/-- What completes nothing reaches no definitions. -/
theorem ofBare (bare : Bare assembly)
    : CompletesFirst [] (fun _ => False) assembly :=
  ⟨[], [], rfl, bare.completed, by simp, fun _ => rfl⟩

/-- A refusal may come before any definitions. -/
theorem ofRefuse (order : List (Path × Value)) (refusal : Refusal)
    : CompletesFirst order (fun _ => False) (refuse refusal : Assembly α) :=
  ⟨[], order, rfl, rfl, by simp, fun succeeds => absurd succeeds not_refuse_succeeds⟩

/-- Assemblies in a row reach what the first one does, and what the second one does behind what
the first one has built. -/
theorem bind {further : α → Path × Value → Prop} (first : CompletesFirst early reached assembly)
    (second
      : ∀ value, assembly.Builds value → CompletesFirst late (further value) (next value))
    : CompletesFirst (early ++ late)
        (fun entry => reached entry ∨ ∃ value, assembly.Builds value ∧ further value entry)
        (assembly >>= next) := by
  obtain ⟨done, rest, rfl, completed, mem, all⟩ := first
  obtain ⟨parts, outcome⟩ := assembly
  cases outcome with
  | error obstruction =>
      refine ⟨done, rest ++ late, List.append_assoc .., completed, ?_, ?_⟩
      · intro entry
        refine (mem entry).trans (or_iff_left ?_).symm
        intro behind
        obtain ⟨value, built, -⟩ := behind
        nomatch built
      · intro succeeds
        obtain ⟨value, built⟩ := succeeds
        nomatch built
  | ok value =>
      obtain rfl := all ⟨value, rfl⟩
      obtain ⟨more, left, rfl, behind, mem', all'⟩ := second value rfl
      refine ⟨done ++ more, left, by simp, ?_, ?_, all'⟩
      · rw [List.map_append, ← behind]
        exact congrArg (· ++ _) completed
      · intro entry
        have built (other : α)
            : (⟨parts, .ok value⟩ : Assembly α).Builds other ↔ value = other :=
          ⟨Except.ok.inj, congrArg Except.ok⟩
        simp only [List.mem_append, mem, mem', built, exists_eq_left']

/-- What the second assembly reaches may not depend on what the first one has built, only on its
success. -/
theorem bindAnd {further : Path × Value → Prop} {condition : Prop}
    (first : CompletesFirst early reached assembly) (succeeds : assembly.Succeeds ↔ condition)
    (second : ∀ value, assembly.Builds value → CompletesFirst late further (next value))
    : CompletesFirst (early ++ late) (fun entry => reached entry ∨ condition ∧ further entry)
        (assembly >>= next) := by
  refine (first.bind second).congr fun entry => or_congr_right ?_
  rw [exists_and_right, ← succeeds]
  rfl

/-- Behind what completes nothing, its success is a condition on all that is reached. -/
theorem bareThen {further : Path × Value → Prop} {condition : Prop} (bare : Bare assembly)
    (succeeds : assembly.Succeeds ↔ condition)
    (second : ∀ value, assembly.Builds value → CompletesFirst order further (next value))
    : CompletesFirst order (fun entry => condition ∧ further entry) (assembly >>= next) :=
  ((ofBare bare).bindAnd succeeds second).congr fun _ => by rw [false_or]

theorem thenBare (first : CompletesFirst order reached assembly)
    (bare : ∀ value, Bare (next value))
    : CompletesFirst order reached (assembly >>= next) := by
  have behind := first.bind fun value _ => ofBare (bare value)
  rw [List.append_nil] at behind
  exact behind.congr fun entry => by simp

/-- What is caught completes and reaches the same. -/
theorem caught (first : CompletesFirst order reached assembly)
    : CompletesFirst order reached assembly.caught := by
  obtain ⟨done, rest, split, completed, mem, all⟩ := first
  exact ⟨done, rest, split, completed, mem, fun succeeds => all (caught_succeeds_iff.mp succeeds)⟩

/-- What is reached is the same wherever it is seen from. -/
theorem under (first : CompletesFirst order reached assembly)
    : CompletesFirst (order.map (entryUnder step))
        (fun entry => ∃ inner, reached inner ∧ entryUnder step inner = entry)
        (assembly.under step) := by
  obtain ⟨done, rest, rfl, completed, mem, all⟩ := first
  refine ⟨done.map (entryUnder step), rest.map (entryUnder step), List.map_append, ?_, ?_, ?_⟩
  · have parts : (assembly.under step).completed
        = assembly.completed.map fun part => { part with path := step :: part.path } := rfl
    rw [parts, completed, List.map_map, List.map_map]
    exact List.map_congr_left fun entry _ => rfl
  · intro entry
    simp only [List.mem_map, mem]
  · intro succeeds
    obtain ⟨value, built⟩ := succeeds
    rw [all ⟨value, under_builds_iff.mp built⟩, List.map_nil]

/-- A walk that adds one entry after the other reaches what adding an entry does, once all those
before it have been added. By induction on the entries. -/
theorem walk (walk : ObjectNode Schema → Members → Assembly (ObjectNode Schema))
    (add : ObjectNode Schema → String × Value → Assembly (ObjectNode Schema))
    (none : ∀ node, walk node [] = result node)
    (further : ∀ node entry rest, walk node (entry :: rest) = add node entry >>= (walk · rest))
    {entries : Members} {orderAt : String × Value → List (Path × Value)}
    {reachedAt : String × Value → Path × Value → Prop}
    (each
      : ∀ entry ∈ entries,
          ∀ node, CompletesFirst (orderAt entry) (reachedAt entry) (add node entry))
    (node : ObjectNode Schema)
    : CompletesFirst (entries.flatMap orderAt)
        (fun reached =>
          ∃ before entry after,
            entries = before ++ entry :: after
            ∧ (walk node before).Succeeds
            ∧ reachedAt entry reached)
        (walk node entries) := by
  induction entries generalizing node with
  | nil =>
      rw [none]
      exact (ofBare (.result node)).congr fun entry => by simp
  | cons first rest ih =>
      rw [further, List.flatMap_cons]
      have here := each first List.mem_cons_self node
      have later (node : ObjectNode Schema) :=
        ih (fun entry member => each entry (List.mem_cons_of_mem _ member)) node
      refine (here.bind fun node _ => later node).congr fun reached => ?_
      constructor
      · intro either
        rcases either with reaches | ⟨between, added, before, entry, after, rfl, succeeds, reaches⟩
        · exact ⟨[], first, rest, rfl, by rw [none]; exact result_succeeds node, reaches⟩
        · refine ⟨first :: before, entry, after, rfl, ?_, reaches⟩
          rw [further, bind_succeeds_iff]
          exact ⟨between, added, succeeds⟩
      · intro split
        obtain ⟨before, entry, after, same, succeeds, reaches⟩ := split
        cases before with
        | nil =>
            obtain ⟨rfl, rfl⟩ := List.cons.inj same
            exact Or.inl reaches
        | cons _ before =>
            obtain ⟨rfl, rfl⟩ := List.cons.inj same
            rw [further, bind_succeeds_iff] at succeeds
            obtain ⟨between, added, succeeds⟩ := succeeds
            exact Or.inr ⟨between, added, before, entry, after, rfl, succeeds, reaches⟩

end CompletesFirst

-----------------------------------------------------------------------------------------
-- Arrays and objects
-----------------------------------------------------------------------------------------

/-- The compilation of a definition completes the first ones in its order, exactly those that are
completed at their paths. -/
def CompletesInOrder (setting : Setting) (definition : Value)
    : Prop :=
  CompletesFirst (inOrder definition) (fun entry => Completes setting definition entry.1 entry.2)
    (compile setting definition)

/-- A definition with its path is completed inside another one, which is a step away. -/
def CompletesUnder (setting : Setting) (step : Step) (between : Value) (entry : Path × Value)
    : Prop :=
  ∃ inner, Completes setting between inner.1 inner.2 ∧ entryUnder step inner = entry

theorem orderOf_singleton (step : Step) (inner : Value)
    : orderOf [(step, inner)] = (inOrder inner).map (entryUnder step) :=
  List.append_nil _

theorem orderOf_map (entries : Members) (stepTo : String → Step)
    : orderOf (entries.map fun entry => (stepTo entry.1, entry.2))
      = entries.flatMap fun entry => orderOf [(stepTo entry.1, entry.2)] := by
  simp only [orderOf, List.flatMap_map, List.flatMap_singleton]

theorem CompletesInOrder.under {inner : Value} (completes : CompletesInOrder setting inner)
    (step : Step)
    : CompletesFirst (orderOf [(step, inner)]) (CompletesUnder setting step inner)
        ((compile setting inner).under step) := by
  rw [orderOf_singleton]
  exact CompletesFirst.under completes

/-- Compiling the items completes the first definitions in their order. -/
theorem arrayOf_completes
    (inside : ∀ inner, Inside inner (.object members) → CompletesInOrder setting inner)
    : CompletesFirst (orderOf (itemsInside members))
        (fun entry =>
          ∃ inner,
            value? members .items = some inner
            ∧ isList inner = false
            ∧ CompletesUnder setting .items inner entry)
        (arrayOf members (childAt setting .items members)) := by
  refine .thenBare ?_ fun node => assignSize_bare.bind fun node => assignSize_bare
  unfold assignItems withKeyword itemsInside
  rw [childAt_eq]
  cases present : value? members .items with
  | none => exact (CompletesFirst.ofBare (.result _)).congr fun entry => by simp
  | some value =>
      by_cases list : isList value
      · simp only [list, if_true]
        exact (CompletesFirst.ofRefuse _ _).congr fun entry => by simp [list]
      · have child := (inside value (.child present)).under .items
        simp only [list, Bool.not_false, Option.filter_some, Option.map_some]
        refine CompletesFirst.congr (fun entry => ?_) (child.thenBare fun schema => .assigned _)
        simp [list]

/-- Declaring members completes the first definitions in their order, by the walk through them. -/
theorem addProperties_completes {entries : Members}
    (each : ∀ entry ∈ entries, CompletesInOrder setting entry.2)
    : CompletesFirst (orderOf (entries.map fun entry => (.property entry.1, entry.2)))
        (fun reached =>
          ∃ before entry after,
            entries = before ++ entry :: after
            ∧ Declarable setting before
            ∧ CompletesUnder setting (.property entry.1) entry.2 reached)
        (addProperties {} (entries.map (entryOf setting))) := by
  have walked := CompletesFirst.walk
    (fun node entries => addProperties node (entries.map (entryOf setting)))
    (fun node entry => do
      let schema ← (compile setting entry.2).under (.property entry.1)
      let declaration := ObjectNode.addProperty (.string entry.1) (.proper schema) (.bool false)
      assigned (declaration.made node))
    (fun _ => rfl) (fun node entry rest => (bind_assoc ..).symm)
    (fun entry member node =>
      ((each entry member).under (.property entry.1)).thenBare fun schema => .assigned _)
    {}
  simp only [declared_iff] at walked
  rwa [orderOf_map]

/-- Adding patterns completes the first definitions in their order, by the walk through them. -/
theorem addPatterns_completes {entries : Members}
    (each : ∀ entry ∈ entries, CompletesInOrder setting entry.2) (node : ObjectNode Schema)
    : CompletesFirst (orderOf (entries.map fun entry => (.pattern entry.1, entry.2)))
        (fun reached =>
          ∃ before entry after,
            entries = before ++ entry :: after
            ∧ Matchable setting before
            ∧ CompletesUnder setting (.pattern entry.1) entry.2 reached)
        (addPatterns node (entries.map (entryOf setting))) := by
  have walked := CompletesFirst.walk
    (fun node entries => addPatterns node (entries.map (entryOf setting)))
    (fun node entry => do
      let schema ← (compile setting entry.2).under (.pattern entry.1)
      assigned ((ObjectNode.addPattern (.string entry.1) (.proper schema)).made node))
    (fun _ => rfl) (fun node entry rest => (bind_assoc ..).symm)
    (fun entry member node =>
      ((each entry member).under (.pattern entry.1)).thenBare fun schema => .assigned _)
    node
  simp only [matched_iff] at walked
  rwa [orderOf_map]

/-- Saying what additional members are completes the first definitions in the order of theirs. -/
theorem assignAdditional_completes
    (inside : ∀ inner, Inside inner (.object members) → CompletesInOrder setting inner)
    (node : ObjectNode Schema)
    : CompletesFirst (orderOf (additionalInside members))
        (fun entry =>
          ∃ inner,
            value? members .additionalProperties = some inner
            ∧ isObject inner
            ∧ CompletesUnder setting .additional inner entry)
        (assignAdditional members (childAt setting .additionalProperties members) node) := by
  unfold assignAdditional withKeyword additionalInside
  rw [childAt_eq]
  cases present : value? members .additionalProperties with
  | none => exact (CompletesFirst.ofBare (.result _)).congr fun entry => by simp
  | some value =>
      cases value with
      | bool allowed =>
          exact (CompletesFirst.ofBare (.assigned _)).congr fun entry => by simp [isObject]
      | object inner =>
          have child := (inside (.object inner) (.child present)).under .additional
          refine CompletesFirst.congr (fun entry => ?_) (child.thenBare fun schema => .assigned _)
          simp [isObject]
      | _ => exact (CompletesFirst.ofRefuse _ _).congr fun entry => by simp [isObject]

/-- Required names are listed and assigned, or nothing behind them is completed. -/
theorem required_then_completes {flagged : List Value} (named : ∀ value ∈ flagged, IsName value)
    {node : ObjectNode Schema} {next : ObjectNode Schema → Assembly α}
    {order : List (Path × Value)} {reached : Path × Value → Prop}
    (later : ∀ node, CompletesFirst order reached (next node))
    : CompletesFirst order (fun entry => Given members .required IsRequirement ∧ reached entry)
        (do
          let listed ← listedRequired members
          let node ← assigned ((ObjectNode.setRequired (.list (flagged ++ listed))).made node)
          next node) := by
  have succeeds
      : (listedRequired members >>= fun listed =>
          assigned ((ObjectNode.setRequired (.list (flagged ++ listed))).made node)).Succeeds
        ↔ Given members .required IsRequirement := by
    rw [bind_succeeds_iff, ← listed_isName_iff]
    refine exists_congr fun listed => and_congr_right fun _ => ?_
    rw [setRequired_succeeds_iff, List.forall_mem_append]
    exact and_iff_right named
  rw [← bind_assoc]
  exact .bareThen (listedRequired_bare.bind fun _ => .assigned _) succeeds fun node _ => later node

/-- Compiling an object completes the first definitions in order, those that it gets to. -/
theorem objectOf_completes
    (inside : ∀ inner, Inside inner (.object members) → CompletesInOrder setting inner)
    : CompletesFirst
        (orderOf (propertiesInside members ++ patternsInside members ++ additionalInside members))
        (fun entry =>
          ∃ step between,
            GetsToMember setting members step between
            ∧ CompletesUnder setting step between entry)
        (objectOf members (entriesAt setting .properties members)
          (entriesAt setting .patternProperties members)
          (childAt setting .additionalProperties members)) := by
  have listed (keyword : Keyword)
      : ∀ entry ∈ definitionsIn members keyword, CompletesInOrder setting entry.2 :=
    fun entry member => inside entry.2 (.entry member)
  simp only [objectOf, entriesAt_eq]
  rw [List.append_assoc, orderOf_append, orderOf_append]
  refine CompletesFirst.congr ?_
    (.bareThen expectObject_bare expectObject_succeeds_iff fun _ _ =>
      (addProperties_completes (listed .properties)).bindAnd declared_iff fun node built =>
        required_then_completes (flagged_isName (declared_iff.mp ⟨node, built⟩).named) fun node =>
          .bareThen expectObject_bare expectObject_succeeds_iff fun _ _ =>
            (addPatterns_completes (listed .patternProperties) node).bindAnd matched_iff
              fun node _ => assignAdditional_completes inside node)
  intro entry
  constructor
  · intro reached
    obtain ⟨properties, ⟨before, inner, after, same, earlier, completes⟩
      | ⟨declared, required, patternProperties, later⟩⟩ := reached
    · exact ⟨_, _, .property same earlier, completes⟩
    · have gets : GetsToPatterns setting members :=
        ⟨properties, declared, required, patternProperties⟩
      rcases later with ⟨before, inner, after, same, earlier, completes⟩
        | ⟨matched, inner, present, object, completes⟩
      · exact ⟨_, _, .pattern gets same earlier, completes⟩
      · exact ⟨_, _, .additional gets matched present object, completes⟩
  · intro reached
    obtain ⟨step, between, gets, completes⟩ := reached
    cases gets with
    | property same earlier =>
        have member := same ▸ List.mem_append_right _ List.mem_cons_self
        exact ⟨isObject_of_definitionsIn member, Or.inl ⟨_, _, _, same, earlier, completes⟩⟩
    | pattern gets same earlier =>
        exact ⟨gets.properties, Or.inr ⟨gets.declared, gets.required, gets.patternProperties,
          Or.inl ⟨_, _, _, same, earlier, completes⟩⟩⟩
    | additional gets matched present object =>
        exact ⟨gets.properties, Or.inr ⟨gets.declared, gets.required, gets.patternProperties,
          Or.inr ⟨matched, _, present, object, completes⟩⟩⟩

-----------------------------------------------------------------------------------------
-- Definitions
-----------------------------------------------------------------------------------------

/-- A definition with its path is completed inside another one, behind a step that compiling gets
to. -/
def CompletesInside (setting : Setting) (members : Members) (entry : Path × Value)
    : Prop :=
  ∃ step between, GetsTo setting members step between ∧ CompletesUnder setting step between entry

theorem completes_object_iff {entry : Path × Value}
    : Completes setting (.object members) entry.1 entry.2
      ↔ CompletesInside setting members entry
        ∨ WellFormed setting (.object members) ∧ entry = ([], .object members) := by
  obtain ⟨path, inner⟩ := entry
  constructor
  · intro completes
    cases completes with
    | here wellFormed => exact Or.inr ⟨wellFormed, rfl⟩
    | further reached rest => exact Or.inl ⟨_, _, reached, (_, inner), rest, rfl⟩
  · intro completes
    rcases completes with ⟨step, between, reached, ⟨rest, _⟩, completes, same⟩ | ⟨wellFormed, same⟩
    · obtain ⟨rfl, rfl⟩ := Prod.mk.inj same
      exact .further reached completes
    · obtain ⟨rfl, rfl⟩ := Prod.mk.inj same
      exact .here wellFormed

/-- Compiling only gets inside a definition that states a kind of containers, without a
reference. -/
theorem GetsTo.headed {step : Step} {inner : Value} (reached : GetsTo setting members step inner)
    : value? members .reference = none
      ∧ ∃ kind : SchemaKind, kind ≠ .simple ∧ typeWord? members = some kind.word := by
  cases reached with
  | items headed => exact ⟨headed.unreferenced, .array, nofun, headed.typed⟩
  | member headed => exact ⟨headed.unreferenced, .object, nofun, headed.typed⟩

theorem completesInside_iff_of_array {entry : Path × Value}
    (unreferenced : value? members .reference = none)
    (typed : typeWord? members = some SchemaKind.array.word)
    : CompletesInside setting members entry
      ↔ Lacks members (Keyword.ofLeaves ++ Keyword.ofObjects)
        ∧ ∃ inner,
            value? members .items = some inner
            ∧ isList inner = false
            ∧ CompletesUnder setting .items inner entry := by
  constructor
  · intro completes
    obtain ⟨step, inner, reached, completes⟩ := completes
    cases reached with
    | items headed present single => exact ⟨headed.placed, inner, present, single, completes⟩
    | member headed => exact absurd (typed.symm.trans headed.typed) (by decide)
  · intro completes
    obtain ⟨placed, inner, present, single, completes⟩ := completes
    exact ⟨.items, inner, .items ⟨unreferenced, typed, placed⟩ present single, completes⟩

theorem completesInside_iff_of_object {entry : Path × Value}
    (unreferenced : value? members .reference = none)
    (typed : typeWord? members = some SchemaKind.object.word)
    : CompletesInside setting members entry
      ↔ Lacks members (Keyword.ofLeaves ++ Keyword.ofArrays)
        ∧ ∃ step between,
            GetsToMember setting members step between
            ∧ CompletesUnder setting step between entry := by
  constructor
  · intro completes
    obtain ⟨step, inner, reached, completes⟩ := completes
    cases reached with
    | items headed => exact absurd (typed.symm.trans headed.typed) (by decide)
    | member headed reached => exact ⟨headed.placed, step, inner, reached, completes⟩
  · intro completes
    obtain ⟨placed, step, inner, reached, completes⟩ := completes
    exact ⟨step, inner, .member ⟨unreferenced, typed, placed⟩ reached, completes⟩

/-- Without misplaced keywords the rest is completed, and nothing is with them. -/
theorem CompletesFirst.placed {order : List (Path × Value)} {reached : Path × Value → Prop}
    {typeName : String} {keywords : List Keyword} {next : Unit → Assembly α}
    (behind : Lacks members keywords → CompletesFirst order reached (next ()))
    : CompletesFirst order (fun entry => Lacks members keywords ∧ reached entry)
        (rejectKeywords members typeName keywords >>= next) :=
  .bareThen rejectKeywords_bare rejectKeywords_succeeds_iff fun _ built =>
    behind (rejectKeywords_succeeds_iff.mp ⟨(), built⟩)

/-- The parts of a definition complete the first definitions inside it, those that compiling gets
to. -/
theorem Parts.completesFirst {parts : Assembly α} (made : Parts setting members parts)
    (inside : ∀ inner, Inside inner (.object members) → CompletesInOrder setting inner)
    : CompletesFirst (orderOf (directlyInside members)) (CompletesInside setting members)
        parts := by
  have unreached (entry : Path × Value)
      (outside : ∀ step inner, ¬GetsTo setting members step inner)
      : False ↔ CompletesInside setting members entry := by
    refine iff_of_false id ?_
    intro completes
    obtain ⟨step, inner, reached, -⟩ := completes
    exact outside step inner reached
  cases made with
  | refused unread =>
      refine (CompletesFirst.ofRefuse _ _).congr fun entry => unreached entry ?_
      intro step inner reached
      obtain ⟨unreferenced, kind, -, typed⟩ := reached.headed
      rcases unread with referenced | untyped
      · exact referenced unreferenced
      · nomatch untyped.symm.trans typed
  | array typeName unreferenced typed =>
      refine CompletesFirst.congr
        (fun entry => (completesInside_iff_of_array unreferenced typed).symm)
        (.placed fun placed => ?_)
      rw [directlyInside_of_array placed.right]
      exact arrayOf_completes inside
  | object typeName unreferenced typed =>
      refine CompletesFirst.congr
        (fun entry => (completesInside_iff_of_object unreferenced typed).symm)
        (.placed fun placed => ?_)
      rw [directlyInside_of_object placed.right]
      exact objectOf_completes inside
  | leaf typeName stated simple =>
      have behind (placed : Lacks members (Keyword.ofArrays ++ Keyword.ofObjects))
          : CompletesFirst (orderOf (directlyInside members)) (fun _ => False)
              (rejectRequiredList members typeName >>= fun _ => leafOf setting members stated) := by
        rw [directlyInside_of_leaf placed.left placed.right]
        exact .ofBare (rejectRequiredList_bare.bind fun _ => leafOf_bare stated)
      refine (CompletesFirst.placed behind).congr fun entry => ?_
      rw [and_false]
      refine unreached entry ?_
      intro step inner reached
      obtain ⟨-, kind, container, typed⟩ := reached.headed
      exact simple kind container typed

/-- The schema of a definition completes the definition itself. -/
theorem complete_completesFirst {definition : Value} {schema : Schema}
    (built : (compile setting definition).Builds schema)
    : CompletesFirst [([], definition)] (fun entry => entry = ([], definition))
        (complete schema) := by
  refine ⟨[([], definition)], [], rfl, ?_, fun entry => List.mem_singleton, fun _ => rfl⟩
  rw [List.map_singleton, partOf, ← kind_of_builds built]
  rfl

/-- Every compilation completes the first definitions in order, exactly those that it gets to and
that are well formed. By induction on the definitions inside. -/
theorem compile_completesInOrder (setting : Setting) (definition : Value)
    : CompletesInOrder setting definition := by
  induction definition using insideInduction with
  | step definition inside =>
      cases definition with
      | object members =>
          obtain ⟨α, parts, schema, whole, made⟩ := exists_parts setting members
          have succeeds : parts.caught.Succeeds ↔ WellFormed setting (.object members) := by
            rw [← succeeds_iff_wellFormed, whole, bind_complete_succeeds_iff]
          have last (value : α) (built : parts.caught.Builds value)
              : CompletesFirst [([], .object members)] (fun entry => entry = ([], .object members))
                  (complete (schema value)) := by
            refine complete_completesFirst (?_ : (compile setting _).Builds _)
            rw [whole]
            exact bind_builds_iff.mpr ⟨value, built, complete_builds_iff.mpr rfl⟩
          unfold CompletesInOrder
          rw [whole, inOrder_object]
          refine ((made.completesFirst inside).caught.bindAnd succeeds last).congr fun entry => ?_
          exact completes_object_iff.symm
      | _ =>
          refine (CompletesFirst.ofRefuse _ _).congr fun entry => iff_of_false id ?_
          obtain ⟨path, inner⟩ := entry
          intro completes
          cases completes with
          | here wellFormed => nomatch wellFormed

end Assay.Definition
