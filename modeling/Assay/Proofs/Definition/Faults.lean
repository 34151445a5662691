import Assay.Proofs.Definition.Acceptance
import Assay.Proofs.Schema.Admission

/-! Where compiling stops without a verdict on the definition: at a text that is to be a pattern and
cannot be read for another reason than a defect of its own. Whatever else keeps a definition from
being compiled is a refusal.
-/

namespace Assay

namespace Definition

namespace Assembly

variable {α β : Type} {fault : Fault}

-----------------------------------------------------------------------------------------
-- Assemblies that stop
-----------------------------------------------------------------------------------------

/-- An assembly is stopped by a fault. -/
def Stops (assembly : Assembly α) (fault : Fault)
    : Prop :=
  assembly.outcome = .error (.stopped fault)

theorem bind_stops_iff {assembly : Assembly α} {next : α → Assembly β}
    : (assembly >>= next).Stops fault
      ↔ assembly.Stops fault ∨ ∃ value, assembly.Builds value ∧ (next value).Stops fault := by
  obtain ⟨completed, outcome⟩ := assembly
  cases outcome with
  | error obstruction => simp [Stops, Builds, bind, andThen]
  | ok value => simp [Stops, Builds, bind, andThen]

/-- Assemblies in a row stop in the first one, or in the second one behind a first that succeeds,
where the second one asks nothing more of the first than what it always builds. -/
theorem bind_stops_iff_of_kept {assembly : Assembly α} {next : α → Assembly β}
    (kept : α → Prop) (keeps : ∀ value, assembly.Builds value → kept value)
    {here first rest : Prop} (stops : assembly.Stops fault ↔ here)
    (succeeds : assembly.Succeeds ↔ first)
    (later : ∀ value, kept value → ((next value).Stops fault ↔ rest))
    : (assembly >>= next).Stops fault ↔ here ∨ first ∧ rest := by
  rw [bind_stops_iff, stops, ← succeeds]
  refine or_congr_right ⟨?_, ?_⟩
  · rintro ⟨value, built, stopped⟩
    exact ⟨⟨value, built⟩, (later value (keeps value built)).mp stopped⟩
  · rintro ⟨⟨value, built⟩, holds⟩
    exact ⟨value, built, (later value (keeps value built)).mpr holds⟩

@[simp]
theorem not_result_stops {value : α}
    : ¬(result value).Stops fault := nofun

@[simp]
theorem not_refuse_stops {refusal : Refusal}
    : ¬(refuse refusal : Assembly α).Stops fault := nofun

@[simp]
theorem not_complete_stops {schema : Schema}
    : ¬(complete schema).Stops fault := nofun

theorem assigned_stops_iff {step : Except Failure α}
    : (assigned step).Stops fault ↔ step = .error (.stopped fault) := by
  cases step with
  | ok value => simp [assigned, Stops, result]
  | error failure => cases failure <;> simp [assigned, Stops]

/-- An assembly is stopped by the same fault wherever it stands. -/
theorem under_stops_iff {assembly : Assembly α} {step : Step}
    : (assembly.under step).Stops fault ↔ assembly.Stops fault := by
  obtain ⟨completed, outcome⟩ := assembly
  rcases outcome with (⟨path, refusal⟩ | other) | value <;> simp [under, Stops, Obstruction.under]

/-- Faults are not caught. -/
@[simp]
theorem caught_stops_iff {assembly : Assembly α}
    : assembly.caught.Stops fault ↔ assembly.Stops fault := by
  obtain ⟨completed, outcome⟩ := assembly
  cases outcome with
  | ok value => simp [caught, Stops, Except.mapError]
  | error obstruction =>
      cases obstruction with
      | stopped other => rfl
      | refused path error =>
          simp only [caught, Stops, Except.mapError, Obstruction.caught]
          split <;> simp

/-- No fault stops an assembly. -/
def NeverStops (assembly : Assembly α)
    : Prop :=
  ∀ fault, ¬assembly.Stops fault

namespace NeverStops

theorem assigned {step : Except Failure α} (never : Leaf.NeverStops step)
    : NeverStops (assigned step) :=
  fun fault stops => never fault (assigned_stops_iff.mp stops)

theorem bind {assembly : Assembly α} {next : α → Assembly β} (here : NeverStops assembly)
    (later : ∀ value, NeverStops (next value))
    : NeverStops (assembly >>= next) := by
  intro fault stops
  rcases bind_stops_iff.mp stops with first | ⟨value, -, rest⟩
  · exact here fault first
  · exact later value fault rest

/-- Behind what never stops, the second assembly alone decides. -/
theorem bind_stops_iff_of_kept {assembly : Assembly α} {next : α → Assembly β}
    (never : NeverStops assembly) (kept : α → Prop)
    (keeps : ∀ value, assembly.Builds value → kept value) {first rest : Prop}
    (succeeds : assembly.Succeeds ↔ first)
    (later : ∀ value, kept value → ((next value).Stops fault ↔ rest))
    : (assembly >>= next).Stops fault ↔ first ∧ rest := by
  have stops : assembly.Stops fault ↔ False := iff_false_intro (never fault)
  rw [Assembly.bind_stops_iff_of_kept kept keeps stops succeeds later, false_or]

theorem bind_stops_iff {assembly : Assembly α} {next : α → Assembly β}
    (never : NeverStops assembly) {first rest : Prop} (succeeds : assembly.Succeeds ↔ first)
    (later : ∀ value, (next value).Stops fault ↔ rest)
    : (assembly >>= next).Stops fault ↔ first ∧ rest :=
  never.bind_stops_iff_of_kept (fun _ => True) (fun _ _ => trivial) succeeds fun value _ =>
    later value

end NeverStops

end Assembly
open Assembly

variable {α : Type} {setting : Setting} {members : Members} {keyword : Keyword} {fault : Fault}

theorem withKeyword_stops_iff {unchanged : α} {use : Value → Assembly α}
    : (withKeyword members keyword unchanged use).Stops fault
      ↔ ∃ value, value? members keyword = some value ∧ (use value).Stops fault := by
  unfold withKeyword
  cases value? members keyword with
  | none => simp
  | some given => simp

theorem withKeyword_neverStops {unchanged : α} {use : Value → Assembly α}
    (each : ∀ value, (use value).NeverStops)
    : (withKeyword members keyword unchanged use).NeverStops := by
  intro fault stops
  obtain ⟨value, -, stopped⟩ := withKeyword_stops_iff.mp stops
  exact each value fault stopped

-----------------------------------------------------------------------------------------
-- Leaves
-----------------------------------------------------------------------------------------

/-- A definition has a text for a pattern whose reading runs into a fault. -/
def HasUnreadPattern (members : Members) (fault : Fault)
    : Prop :=
  ∃ value source,
    value? members .pattern = some value
    ∧ value.text? = some source
    ∧ Pattern.compile source = .error (.fault fault)

theorem pattern_stops_iff {leaf : Leaf}
    : (assignKeyword setting members .pattern .pattern isText .wrongType leaf).Stops fault
      ↔ leaf.type = .string ∧ HasUnreadPattern members fault := by
  simp only [assignKeyword, withKeyword_stops_iff, HasUnreadPattern, ← exists_and_left]
  refine exists_congr fun value => ?_
  constructor
  · rintro ⟨present, stops⟩
    split at stops
    · rename_i text
      obtain ⟨label, found⟩ := label_of_isText text
      obtain ⟨string, unread⟩ :=
        (Leaf.setPattern_label_eq_stopped_iff found).mp (assigned_stops_iff.mp stops)
      exact ⟨label.word, string, present, text_eq_some_iff.mpr ⟨label, found, rfl⟩, unread⟩
    · exact absurd stops not_refuse_stops
  · rintro ⟨source, string, present, reads, unread⟩
    obtain ⟨label, found, rfl⟩ := text_eq_some_iff.mp reads
    have text : isText value := Option.isSome_iff_exists.mpr ⟨_, reads⟩
    rw [if_pos text]
    exact ⟨present, assigned_stops_iff.mpr
      ((Leaf.setPattern_label_eq_stopped_iff found).mpr ⟨string, unread⟩)⟩

/-- Fields other than the pattern and the flags take or refuse what is expected of them. -/
theorem assignKeyword_neverStops {field : LeafField} {expected : Value → Bool}
    {refusal : Keyword → Value → Refusal} {leaf : Leaf}
    (other : field ≠ .pattern ∧ ¬field.isFlag)
    (documented : ∀ value, expected value → field.Documents value)
    : (assignKeyword setting members keyword field expected refusal leaf).NeverStops := by
  refine withKeyword_neverStops fun value => ?_
  split
  · rename_i expects
    refine .assigned fun fault stopped => ?_
    rcases Leaf.stopped_of_assign (documented value expects) stopped with ⟨same, -⟩ | ⟨flag, -⟩
    · exact other.1 same
    · exact other.2 flag
  · exact fun fault => not_refuse_stops

theorem assignFlag_neverStops {field : LeafField} (flag : field.isFlag) {leaf : Leaf}
    : (assignFlag setting members keyword field leaf).NeverStops := by
  refine withKeyword_neverStops fun value => ?_
  split
  · exact fun fault => not_result_stops
  · exact fun fault => not_result_stops
  · have documented : field.Documents (.bool true) := by
      cases field <;> trivial
    refine .assigned fun fault stopped => ?_
    rcases Leaf.stopped_of_assign documented stopped with ⟨same, -⟩ | ⟨-, asked⟩
    · rw [same] at flag
      cases flag
    · cases asked
  · exact fun fault => not_refuse_stops

theorem checkFormatName_neverStops (value : Value)
    : (checkFormatName setting value).NeverStops := by
  intro fault stops
  simp only [checkFormatName] at stops
  split_ifs at stops
  · exact not_refuse_stops stops
  · exact not_result_stops stops

/-- A leaf stops only where its pattern is read, which is done before anything else is assigned. -/
theorem leafOf_stops_iff {stated : Value}
    : (leafOf setting members stated).Stops fault
      ↔ stated.text? = some SimpleType.string.word ∧ HasUnreadPattern members fault := by
  have texts (value : Value) (text : isText value) : LeafField.format.Documents value :=
    Or.inr (label_of_isText text)
  have lists (value : Value) (list : isList value) : LeafField.enumeration.Documents value := by
    unfold isList at list
    split at list
    · exact Or.inr ⟨_, rfl⟩
    · nomatch list
  have made : Leaf.NeverStops (Leaf.ofFields setting.formats [(.type, stated)]) := by
    refine Leaf.NeverStops.bind ?_ fun leaf => .ok leaf
    show Leaf.NeverStops (Leaf.setType setting.formats {} stated)
    exact Leaf.setType_neverStops
  unfold leafOf
  rw [bind_stops_iff, or_iff_right (NeverStops.assigned made fault)]
  constructor
  · rintro ⟨leaf, built, stops⟩
    obtain ⟨type, reads, rfl⟩ := ofFields_type_eq_ok_iff.mp (assigned_builds_iff.mp built)
    rcases bind_stops_iff.mp stops with here | ⟨leaf, -, later⟩
    · obtain ⟨rfl, unread⟩ := pattern_stops_iff.mp here
      exact ⟨reads, unread⟩
    · refine absurd later ((?_ : NeverStops _) fault)
      refine .bind (withKeyword_neverStops checkFormatName_neverStops) fun _ => ?_
      refine .bind (assignKeyword_neverStops (by decide) texts) fun leaf => ?_
      refine .bind (assignKeyword_neverStops (by decide) fun _ _ => trivial) fun leaf => ?_
      refine .bind (assignKeyword_neverStops (by decide) fun _ _ => trivial) fun leaf => ?_
      refine .bind (assignKeyword_neverStops (by decide) fun _ _ => trivial) fun leaf => ?_
      refine .bind (assignKeyword_neverStops (by decide) fun _ _ => trivial) fun leaf => ?_
      refine .bind (assignFlag_neverStops (by rfl)) fun leaf => ?_
      refine .bind (assignFlag_neverStops (by rfl)) fun leaf => ?_
      exact assignKeyword_neverStops (by decide) lists
  · rintro ⟨reads, unread⟩
    refine ⟨{ type := .string },
      assigned_builds_iff.mpr (ofFields_type_eq_ok_iff.mpr ⟨.string, reads, rfl⟩), ?_⟩
    exact bind_stops_iff.mpr (Or.inl (pattern_stops_iff.mpr ⟨rfl, unread⟩))

-----------------------------------------------------------------------------------------
-- Arrays
-----------------------------------------------------------------------------------------

theorem assignItems_stops_iff {node : ArrayNode Schema}
    : (assignItems members (childAt setting .items members) node).Stops fault
      ↔ ∃ inner, value? members .items = some inner ∧ (compile setting inner).Stops fault := by
  unfold assignItems
  rw [withKeyword_stops_iff]
  refine exists_congr fun value => and_congr_right fun present => ?_
  rw [childAt_eq, present, Option.map_some]
  have assigns (schema : Schema)
      : ¬(assigned ((ArrayNode.setItems (.proper schema)).made node)).Stops fault :=
    NeverStops.assigned ArrayNode.setItems_neverStops fault
  by_cases list : isList value
  · -- A list is no definition, so that compiling it refuses it as well.
    have refused : ¬(compile setting value).Stops fault := by
      unfold isList at list
      split at list
      · exact not_refuse_stops
      · nomatch list
    simp [list, refused]
  · simp [list, bind_stops_iff, under_stops_iff, assigns]

theorem assignSize_neverStops {node : ArrayNode Schema}
    {set : Value → Change Failure (ArrayNode Schema) Unit}
    (sets : ∀ value, Leaf.NeverStops ((set value).made node))
    : (assignSize members keyword set node).NeverStops := by
  refine withKeyword_neverStops fun value => ?_
  split
  · exact .assigned (sets value)
  · exact fun fault => not_refuse_stops

/-- An array stops only inside its items. -/
theorem arrayOf_stops_iff
    : (arrayOf members (childAt setting .items members)).Stops fault
      ↔ ∃ inner, value? members .items = some inner ∧ (compile setting inner).Stops fault := by
  unfold arrayOf
  rw [bind_stops_iff, assignItems_stops_iff]
  refine or_iff_left ?_
  rintro ⟨node, -, sizes⟩
  refine ((?_ : NeverStops _) fault) sizes
  refine .bind (assignSize_neverStops fun _ => ArrayNode.setMinItems_neverStops) fun node => ?_
  exact assignSize_neverStops fun _ => ArrayNode.setMaxItems_neverStops

-----------------------------------------------------------------------------------------
-- Objects
-----------------------------------------------------------------------------------------

theorem expectObject_neverStops
    : (expectObject members keyword).NeverStops := by
  refine withKeyword_neverStops fun value => ?_
  split
  · exact fun fault => not_result_stops
  · exact fun fault => not_refuse_stops

theorem listedRequired_neverStops
    : (listedRequired members).NeverStops := by
  refine withKeyword_neverStops fun value => ?_
  split <;> first | exact fun fault => not_result_stops | exact fun fault => not_refuse_stops

/-- A walk that adds one entry after the other to a node stops at an entry that does, all those
before it having been added. By induction on the entries. -/
theorem walk_stops_iff {walk : ObjectNode Schema → Members → Assembly (ObjectNode Schema)}
    {add : ObjectNode Schema → String × Value → Assembly (ObjectNode Schema)}
    (none : ∀ node, walk node [] = result node)
    (further : ∀ node entry rest, walk node (entry :: rest) = add node entry >>= (walk · rest))
    {entries : Members} {node : ObjectNode Schema}
    : (walk node entries).Stops fault
      ↔ ∃ before entry after,
          entries = before ++ entry :: after
          ∧ ∃ next, (walk node before).Builds next ∧ (add next entry).Stops fault := by
  induction entries generalizing node with
  | nil => simp [none]
  | cons first rest ih =>
      rw [further, bind_stops_iff]
      constructor
      · rintro (stops | ⟨between, added, stops⟩)
        · exact ⟨[], first, rest, rfl, node, by rw [none]; rfl, stops⟩
        · obtain ⟨before, entry, after, rfl, next, walked, stops⟩ := ih.mp stops
          refine ⟨first :: before, entry, after, rfl, next, ?_, stops⟩
          rw [further]
          exact bind_builds_iff.mpr ⟨between, added, walked⟩
      · rintro ⟨before, entry, after, same, next, walked, stops⟩
        cases before with
        | nil =>
            obtain ⟨rfl, rfl⟩ := List.cons.inj same
            rw [none] at walked
            obtain rfl := result_builds_iff.mp walked
            exact Or.inl stops
        | cons _ before =>
            obtain ⟨rfl, rfl⟩ := List.cons.inj same
            rw [further] at walked
            obtain ⟨between, added, walked⟩ := bind_builds_iff.mp walked
            exact Or.inr ⟨between, added, ih.mpr ⟨before, entry, after, rfl, next, walked, stops⟩⟩

/-- Declared members stop where compiling one of them does, all those before it having been
declared. -/
theorem addProperties_stops_iff {entries : Members} {node : ObjectNode Schema}
    : (addProperties node (entries.map (entryOf setting))).Stops fault
      ↔ ∃ before entry after,
          entries = before ++ entry :: after
          ∧ (addProperties node (before.map (entryOf setting))).Succeeds
          ∧ (compile setting entry.2).Stops fault := by
  have steps := @walk_stops_iff fault
    (fun node entries => addProperties node (entries.map (entryOf setting)))
    (fun node entry => do
      let schema ← (compile setting entry.2).under (.property entry.1)
      let declaration := ObjectNode.addProperty (.string entry.1) (.proper schema) (.bool false)
      assigned (declaration.made node))
    (fun _ => rfl) (fun node entry rest => (bind_assoc ..).symm) entries node
  rw [steps]
  refine exists_congr fun before => exists_congr fun entry => exists_congr fun after => ?_
  have declares (node : ObjectNode Schema) (schema : Schema)
      : ¬(assigned ((ObjectNode.addProperty (.string entry.1) (.proper schema)
          (.bool false)).made node)).Stops fault := by
    rw [assigned_stops_iff, ObjectNode.addProperty_eq_stopped_iff]
    rintro ⟨-, untold⟩
    cases untold
  simp only [bind_stops_iff, under_stops_iff, declares, and_false, exists_false, or_false,
    Succeeds, exists_and_right]

/-- Patterns of members stop where compiling what one of them stands for does, or behind that where
its text is read, all those before it having been added. -/
theorem addPatterns_stops_iff {entries : Members} {node : ObjectNode Schema}
    : (addPatterns node (entries.map (entryOf setting))).Stops fault
      ↔ ∃ before entry after,
          entries = before ++ entry :: after
          ∧ (addPatterns node (before.map (entryOf setting))).Succeeds
          ∧ ((compile setting entry.2).Stops fault
            ∨ (compile setting entry.2).Succeeds
              ∧ Pattern.compile entry.1 = .error (.fault fault)) := by
  have steps := @walk_stops_iff fault
    (fun node entries => addPatterns node (entries.map (entryOf setting)))
    (fun node entry => do
      let schema ← (compile setting entry.2).under (.pattern entry.1)
      assigned ((ObjectNode.addPattern (.string entry.1) (.proper schema)).made node))
    (fun _ => rfl) (fun node entry rest => (bind_assoc ..).symm) entries node
  rw [steps]
  refine exists_congr fun before => exists_congr fun entry => exists_congr fun after => ?_
  have reads (node : ObjectNode Schema) (schema : Schema)
      : (assigned ((ObjectNode.addPattern (.string entry.1) (.proper schema)).made node)).Stops
          fault
        ↔ Pattern.compile entry.1 = .error (.fault fault) := by
    rw [assigned_stops_iff, ObjectNode.addPattern, Change.made_write]
    simp only [ObjectNode.namePattern, Value.text?, ObjectNode.entry,
      bind_eq_error_iff, Leaf.readPattern_eq_stopped_iff]
    simp [pure, Except.pure]
  simp only [bind_stops_iff, under_stops_iff, under_builds_iff, reads, Succeeds, exists_and_right]

theorem assignAdditional_stops_iff {node : ObjectNode Schema}
    : (assignAdditional members (childAt setting .additionalProperties members) node).Stops fault
      ↔ ∃ inner,
          value? members .additionalProperties = some inner
          ∧ (compile setting inner).Stops fault := by
  unfold assignAdditional
  rw [withKeyword_stops_iff]
  refine exists_congr fun value => and_congr_right fun present => ?_
  rw [childAt_eq, present, Option.map_some]
  cases value with
  | bool allowed => cases allowed <;> exact iff_of_false nofun not_refuse_stops
  | object inner =>
      have assigns (schema : Schema)
          : ¬(assigned ((ObjectNode.setAdditional (.proper schema)).made node)).Stops fault :=
        NeverStops.assigned ObjectNode.setAdditional_neverStops fault
      simp [bind_stops_iff, under_stops_iff, assigns]
  | _ => exact iff_of_false not_refuse_stops not_refuse_stops

end Definition

end Assay
