import Assay.Proofs.Definition.Acceptance
import Assay.Proofs.Definition.Progress

/-! Compiling goes through definitions in order. A child is compiled where the definition around it
is taken apart, so every part of a definition goes through the children that it is made from.
-/

namespace Assay.Definition
open Assembly

variable {setting : Setting} {members : Members} {keyword : Keyword}

-----------------------------------------------------------------------------------------
-- Arrays
-----------------------------------------------------------------------------------------

theorem assignSize_bare {node : ArrayNode Schema}
    {set : Value → Change Failure (ArrayNode Schema) Unit}
    : Bare (assignSize members keyword set node) := by
  refine .withKeyword fun value => ?_
  split
  · exact .assigned _
  · exact .refuse _

/-- Assigning the items goes through their definition. -/
theorem assignItems_follows
    (inside : ∀ inner, Inside inner (.object members) → Traced setting inner)
    (node : ArrayNode Schema)
    : Follows setting (orderOf (itemsInside members))
        (assignItems members (childAt setting .items members) node) := by
  unfold assignItems withKeyword itemsInside
  rw [childAt_eq]
  cases present : value? members .items with
  | none => exact .ofBare (.result node)
  | some value =>
      by_cases list : isList value
      · simp only [list, if_true]
        exact .ofRefuse _ _
      · simp only [list, Bool.not_false, Option.filter_some, Option.map_some]
        exact ((inside value (.child present)).follows .items).thenBare fun schema => .assigned _

theorem arrayOf_follows
    (inside : ∀ inner, Inside inner (.object members) → Traced setting inner)
    : Follows setting (orderOf (itemsInside members))
        (arrayOf members (childAt setting .items members)) := by
  refine (assignItems_follows inside _).thenBare fun node => ?_
  exact assignSize_bare.bind fun node => assignSize_bare

-----------------------------------------------------------------------------------------
-- Objects
-----------------------------------------------------------------------------------------

theorem orderOf_cons (entry : Step × Value) (rest : List (Step × Value))
    : orderOf (entry :: rest) = orderOf [entry] ++ orderOf rest :=
  orderOf_append [entry] rest

/-- Declaring members goes through their definitions, by induction on these. -/
theorem addProperties_follows {entries : Members}
    (each : ∀ entry ∈ entries, Traced setting entry.2) (node : ObjectNode Schema)
    : Follows setting (orderOf (entries.map fun entry => (.property entry.1, entry.2)))
        (addProperties node (entries.map (entryOf setting))) := by
  induction entries generalizing node with
  | nil => exact .ofBare (.result node)
  | cons entry rest ih =>
      rw [List.map_cons, List.map_cons, orderOf_cons, addProperties]
      have first := (each entry List.mem_cons_self).follows (.property entry.1)
      refine first.bind fun schema _ => ?_
      refine .bindBare (.assigned _) fun node _ => ?_
      exact ih (fun entry member => each entry (List.mem_cons_of_mem _ member)) node

/-- Adding patterns goes through their definitions, by induction on these. -/
theorem addPatterns_follows {entries : Members}
    (each : ∀ entry ∈ entries, Traced setting entry.2) (node : ObjectNode Schema)
    : Follows setting (orderOf (entries.map fun entry => (.pattern entry.1, entry.2)))
        (addPatterns node (entries.map (entryOf setting))) := by
  induction entries generalizing node with
  | nil => exact .ofBare (.result node)
  | cons entry rest ih =>
      rw [List.map_cons, List.map_cons, orderOf_cons, addPatterns]
      have first := (each entry List.mem_cons_self).follows (.pattern entry.1)
      refine first.bind fun schema _ => ?_
      refine .bindBare (.assigned _) fun node _ => ?_
      exact ih (fun entry member => each entry (List.mem_cons_of_mem _ member)) node

theorem expectObject_bare
    : Bare (expectObject members keyword) := by
  refine .withKeyword fun value => ?_
  split
  · exact .result ()
  · exact .refuse _

theorem listedRequired_bare
    : Bare (listedRequired members) := by
  refine .withKeyword fun value => ?_
  split
  · exact .result _
  · exact .result _
  · exact .result _
  · exact .refuse _

/-- Saying what additional members are goes through their definition. -/
theorem assignAdditional_follows
    (inside : ∀ inner, Inside inner (.object members) → Traced setting inner)
    (node : ObjectNode Schema)
    : Follows setting (orderOf (additionalInside members))
        (assignAdditional members (childAt setting .additionalProperties members) node) := by
  unfold assignAdditional withKeyword additionalInside
  rw [childAt_eq]
  cases present : value? members .additionalProperties with
  | none => exact .ofBare (.result node)
  | some value =>
      cases value with
      | bool allowed => exact .ofBare (.assigned _)
      | object inner =>
          have traced := inside (.object inner) (.child present)
          exact (traced.follows .additional).thenBare fun schema => .assigned _
      | _ => exact .ofRefuse _ _

/-- What an object is made from is gone through: its members, its patterns, then the rest. -/
theorem objectOf_follows
    (inside : ∀ inner, Inside inner (.object members) → Traced setting inner)
    : Follows setting
        (orderOf (propertiesInside members ++ patternsInside members ++ additionalInside members))
        (objectOf members (entriesAt setting .properties members)
          (entriesAt setting .patternProperties members)
          (childAt setting .additionalProperties members)) := by
  have listed (keyword : Keyword)
      : ∀ entry ∈ definitionsIn members keyword, Traced setting entry.2 :=
    fun entry member => inside entry.2 (.entry member)
  simp only [objectOf, entriesAt_eq]
  rw [List.append_assoc, orderOf_append, orderOf_append]
  refine .bindBare expectObject_bare fun _ _ => ?_
  refine (addProperties_follows (listed .properties) _).bind fun node _ => ?_
  refine .bindBare listedRequired_bare fun names _ => ?_
  refine .bindBare (.assigned _) fun node _ => ?_
  refine .bindBare expectObject_bare fun _ _ => ?_
  refine (addPatterns_follows (listed .patternProperties) _).bind fun node _ => ?_
  exact assignAdditional_follows inside node

-----------------------------------------------------------------------------------------
-- Definitions
-----------------------------------------------------------------------------------------

theorem rejectKeywords_bare {typeName : String} {keywords : List Keyword}
    : Bare (rejectKeywords members typeName keywords) := by
  unfold rejectKeywords
  split
  · exact .refuse _
  · exact .result ()

theorem rejectRequiredList_bare {typeName : String}
    : Bare (rejectRequiredList members typeName) := by
  unfold rejectRequiredList
  split
  · exact .refuse _
  · exact .result ()

/-- What goes on behind keywords that are refused may rely on their absence. -/
theorem Follows.placed {order : List (Path × Value)} {typeName : String} {keywords : List Keyword}
    {α : Type} {next : Unit → Assembly α}
    (behind : Lacks members keywords → Follows setting order (next ()))
    : Follows setting order (rejectKeywords members typeName keywords >>= next) :=
  .bindBare rejectKeywords_bare fun _ built =>
    behind (rejectKeywords_succeeds_iff.mp ⟨(), built⟩)

theorem definitionsIn_of_absent (absent : value? members keyword = none)
    : definitionsIn members keyword = [] := by
  simp [definitionsIn, absent]

/-- Only items stand inside a definition without keywords of objects. -/
theorem directlyInside_of_array (placed : Lacks members Keyword.ofObjects)
    : directlyInside members = itemsInside members := by
  have properties := placed .properties (by decide)
  have patterns := placed .patternProperties (by decide)
  have additional := placed .additionalProperties (by decide)
  simp [directlyInside, propertiesInside, patternsInside, additionalInside,
    definitionsIn_of_absent properties, definitionsIn_of_absent patterns, additional]

/-- No items stand inside a definition without keywords of arrays. -/
theorem directlyInside_of_object (placed : Lacks members Keyword.ofArrays)
    : directlyInside members
      = propertiesInside members ++ patternsInside members ++ additionalInside members := by
  have items := placed .items (by decide)
  simp [directlyInside, itemsInside, items]

theorem directlyInside_of_leaf (arrays : Lacks members Keyword.ofArrays)
    (objects : Lacks members Keyword.ofObjects)
    : directlyInside members = [] := by
  have items := arrays .items (by decide)
  rw [directlyInside_of_array objects]
  simp [itemsInside, items]

theorem Lacks.left {first second : List Keyword} (lacks : Lacks members (first ++ second))
    : Lacks members first :=
  fun keyword listed => lacks keyword (List.mem_append_left second listed)

theorem Lacks.right {first second : List Keyword} (lacks : Lacks members (first ++ second))
    : Lacks members second :=
  fun keyword listed => lacks keyword (List.mem_append_right first listed)

theorem assignKeyword_bare {field : LeafField} {expected : Value → Bool}
    {refusal : Keyword → Value → Refusal} {leaf : Leaf}
    : Bare (assignKeyword setting members keyword field expected refusal leaf) := by
  refine .withKeyword fun value => ?_
  split
  · exact .assigned _
  · exact .refuse _

theorem assignFlag_bare {field : LeafField} {leaf : Leaf}
    : Bare (assignFlag setting members keyword field leaf) := by
  refine .withKeyword fun value => ?_
  split
  · exact .result _
  · exact .result _
  · exact .assigned _
  · exact .refuse _

theorem checkFormatName_bare (value : Value)
    : Bare (checkFormatName setting value) := by
  simp only [checkFormatName]
  split_ifs
  · exact .refuse _
  · exact .result ()

/-- A leaf is made from no definitions. -/
theorem leafOf_bare (stated : Value)
    : Bare (leafOf setting members stated) := by
  refine .bind (.assigned _) fun leaf => ?_
  refine assignKeyword_bare.bind fun leaf => ?_
  refine .bind (.withKeyword checkFormatName_bare) fun _ => ?_
  refine assignKeyword_bare.bind fun leaf => ?_
  refine assignKeyword_bare.bind fun leaf => ?_
  refine assignKeyword_bare.bind fun leaf => ?_
  refine assignKeyword_bare.bind fun leaf => ?_
  refine assignKeyword_bare.bind fun leaf => ?_
  refine assignFlag_bare.bind fun leaf => ?_
  refine assignFlag_bare.bind fun leaf => ?_
  exact assignKeyword_bare

/-- What a definition is made from before it is complete, by the type that it states. With a
reference, or with a type that cannot be read, it is refused right away. -/
inductive Parts (setting : Setting) (members : Members) : {α : Type} → Assembly α → Prop
  | refused {refusal} (unread : value? members .reference ≠ none ∨ typeWord? members = none)
    : Parts setting members (refuse refusal : Assembly Schema)
  | array (typeName : String) (unreferenced : value? members .reference = none)
    (typed : typeWord? members = some SchemaKind.array.word)
    : Parts setting members
        (rejectKeywords members typeName (Keyword.ofLeaves ++ Keyword.ofObjects)
          >>= fun _ => arrayOf members (childAt setting .items members))
  | object (typeName : String) (unreferenced : value? members .reference = none)
    (typed : typeWord? members = some SchemaKind.object.word)
    : Parts setting members
        (rejectKeywords members typeName (Keyword.ofLeaves ++ Keyword.ofArrays)
          >>= fun _ => objectOf members (entriesAt setting .properties members)
            (entriesAt setting .patternProperties members)
            (childAt setting .additionalProperties members))
  | leaf (typeName : String) (stated : Value)
    (simple : ∀ kind : SchemaKind, kind ≠ .simple → typeWord? members ≠ some kind.word)
    : Parts setting members
        (rejectKeywords members typeName (Keyword.ofArrays ++ Keyword.ofObjects)
          >>= fun _ => rejectRequiredList members typeName
          >>= fun _ => leafOf setting members stated)

/-- A definition is completed behind its parts. -/
theorem exists_parts (setting : Setting) (members : Members)
    : ∃ (α : Type) (parts : Assembly α) (schema : α → Schema),
        compile setting (.object members)
          = (parts.caught >>= fun value => complete (schema value))
        ∧ Parts setting members parts := by
  by_cases referenced : (value? members .reference).isSome
  · refine ⟨Schema, refuse .referenceUsed, id, ?_, .refused (Or.inl ?_)⟩
    · rw [compile, if_pos referenced]
      rfl
    · exact Option.isSome_iff_ne_none.mp referenced
  · have unreferenced : value? members .reference = none := by simpa using referenced
    rw [compile, if_neg referenced]
    rcases typeOf_eq members with ⟨stated, typing⟩ | ⟨value, -, typing⟩
    · have built : (typeOf members).Builds stated := by rw [typing, result_builds_iff]
      obtain ⟨text, word⟩ := typeOf_builds built
      rw [typing, result_bind]
      by_cases array : stated.display = SchemaKind.array.word
      · refine ⟨ArrayNode Schema, _, .array, ?_,
          .array stated.display unreferenced (word.trans (text_of_display text array))⟩
        rw [← caught_bind_complete]
        simp only [array, if_true, bind_assoc]
      · by_cases object : stated.display = SchemaKind.object.word
        · refine ⟨ObjectNode Schema, _, .object, ?_,
            .object stated.display unreferenced (word.trans (text_of_display text object))⟩
          rw [← caught_bind_complete]
          dsimp only
          rw [if_neg array, if_pos object]
          simp only [bind_assoc]
        · refine ⟨Leaf, _, .leaf setting.registry, ?_,
            .leaf stated.display stated fun kind container typed => ?_⟩
          · rw [← caught_bind_complete]
            simp only [array, object, if_false, bind_assoc]
          · have displayed := display_of_text (word.symm.trans typed)
            cases kind with
            | simple => exact container rfl
            | array => exact array displayed
            | object => exact object displayed
    · refine ⟨Schema, refuse (.typeNotText value), id, ?_, .refused (Or.inr ?_)⟩
      · rw [typing]
        rfl
      · rw [Option.eq_none_iff_forall_ne_some]
        intro word typed
        obtain ⟨stated, built, -⟩ := typeOf_builds_of_typeWord typed
        rw [typing] at built
        exact not_refuse_builds built

/-- The parts of a definition go through the definitions directly inside it. No others can stand
there once misplaced keywords are refused. -/
theorem Parts.follows {α : Type} {parts : Assembly α} (made : Parts setting members parts)
    (inside : ∀ inner, Inside inner (.object members) → Traced setting inner)
    : Follows setting (orderOf (directlyInside members)) parts := by
  cases made with
  | refused => exact .ofRefuse _ _
  | array =>
      refine .placed fun placed => ?_
      rw [directlyInside_of_array placed.right]
      exact arrayOf_follows inside
  | object =>
      refine .placed fun placed => ?_
      rw [directlyInside_of_object placed.right]
      exact objectOf_follows inside
  | leaf =>
      refine .placed fun placed => ?_
      rw [directlyInside_of_leaf placed.left placed.right]
      exact .ofBare (rejectRequiredList_bare.bind fun _ => leafOf_bare _)

end Assay.Definition
