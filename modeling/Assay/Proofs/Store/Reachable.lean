import Assay.Proofs.Definition.Meaning
import Assay.Proofs.Store.Containers

/-! Stores that can be reached by making, compiling and calling nodes. However often that is done,
every object node declares no member twice and requires none twice.
-/

namespace Assay

-----------------------------------------------------------------------------------------
-- Compiled trees
-----------------------------------------------------------------------------------------

/-- The nodes of a compiled tree have distinct names, by induction on the definitions inside. -/
theorem Definition.compile_distinct {setting : Setting} {definition : Value} {schema : Schema}
    (built : (compile setting definition).Builds schema)
    : schema.Distinct := by
  induction definition using insideInduction generalizing schema with
  | step definition inner =>
      cases compile_reads built with
      | leaf => exact .leaf
      | array typed reads =>
          refine .array ?_
          rcases reads.items with ⟨-, anything⟩ | ⟨definition, stated, built⟩
          · exact anything ▸ .leaf
          · exact inner definition (.child stated) built
      | object typed reads =>
          refine .object reads.distinct ?_ ?_ ?_
          · intro property member
            obtain ⟨entry, stated, -, built⟩ := (exists_of_forall₂ reads.properties).2 _ member
            exact inner entry.2 (.entry stated) built
          · intro child member
            obtain ⟨entry, stated, -, built⟩ := (exists_of_forall₂ reads.patterns).2 _ member
            exact inner entry.2 (.entry stated) built
          · intro child given
            obtain ⟨definition, stated, -, built⟩ := reads.additional.definition_of_schema given
            exact inner definition (.child stated) built

-----------------------------------------------------------------------------------------
-- Nodes with the same names
-----------------------------------------------------------------------------------------

namespace ObjectNode

variable {α β : Type}

theorem words_of_labels {entries : List (Label × α)} {others : List (Label × β)}
    (labels : entries.map (·.1) = others.map (·.1))
    : entries.map (·.1.word) = others.map (·.1.word) := by
  simpa [Function.comp_def] using congrArg (List.map Label.word) labels

/-- Names stay distinct when each child is replaced. -/
theorem Distinct.map? {f : α → Option β} {node : ObjectNode α} {mapped : ObjectNode β}
    (distinct : node.Distinct) (found : node.map? f = some mapped)
    : mapped.Distinct := by
  obtain ⟨properties, required, -, -⟩ := map?_eq_some_iff.mp found
  have words := words_of_labels (map_fst_of_mapEntries? properties)
  exact ⟨words ▸ distinct.declared, required ▸ distinct.required⟩

end ObjectNode

-----------------------------------------------------------------------------------------
-- Distinct names in a store
-----------------------------------------------------------------------------------------

/-- A cell that holds an object node holds one with distinct names. -/
def Cell.Distinct (cell : Cell)
    : Prop :=
  ∀ node, cell = .object node → node.Distinct

theorem Cell.distinct_leaf (registry : RegistryId) (leaf : Leaf)
    : (Cell.leaf registry leaf).Distinct := nofun

theorem Cell.distinct_array (node : ArrayNode NodeId)
    : (Cell.array node).Distinct := nofun

namespace Store

/-- Every object node of a store has distinct names. -/
def Distinct (store : Store)
    : Prop :=
  ∀ id cell, store.get? id = some cell → cell.Distinct

variable {store : Store}

/-- A cell that stands for a node with distinct names has them too. -/
theorem distinct_of_standsFor {node : Schema} {cell : Cell} (names : node.Distinct)
    (stands : cell.StandsFor node)
    : cell.Distinct := by
  cases stands with
  | leaf => exact Cell.distinct_leaf _ _
  | array => exact Cell.distinct_array _
  | object labels =>
      rintro _ ⟨⟩
      cases names with
      | object names =>
          exact ⟨ObjectNode.words_of_labels labels ▸ names.declared, names.required⟩

/-- An event leaves names distinct, whether or not what happens in it succeeds. -/
theorem distinct_after (distinct : store.Distinct) (event : Event)
    : (store.after event).Distinct := by
  refine every_after distinct fun cell arises => ?_
  cases arises with
  | leaf => exact Cell.distinct_leaf _ _
  | anything => exact Cell.distinct_leaf _ _
  | array => exact Cell.distinct_array _
  | object built =>
      rintro _ ⟨⟩
      exact (objectOf_accounts built).distinct
  | compiled built contained stands =>
      exact distinct_of_standsFor
        (Schema.distinct_of_contains (Definition.compile_distinct built) contained) stands
  | @called _ _ cell _ _ _ found _ called =>
      cases cell with
      | leaf registry leaf =>
          obtain ⟨_, next, -, rfl⟩ := takes_of_called_leaf called
          exact Cell.distinct_leaf registry next
      | array node =>
          obtain ⟨next, -, rfl⟩ := takes_of_called_array called
          exact Cell.distinct_array next
      | object node =>
          obtain ⟨next, takes, rfl⟩ := takes_of_called_object called
          rintro _ ⟨⟩
          exact takes.distinct (distinct _ _ found node rfl)

-----------------------------------------------------------------------------------------
-- Reachable stores
-----------------------------------------------------------------------------------------

/-- The stores that come of making and compiling nodes and of calling them with whatever values,
whatever the registries hold each time and whether or not the calls return. -/
inductive Reachable : Store → Prop
  | empty : Reachable {}
  | after {earlier} (reachable : Reachable earlier) (event : Event)
    : Reachable (Store.after earlier event)

/-- The object nodes of a reachable store have distinct names, by induction on how it is reached. -/
theorem Reachable.distinct (reachable : Reachable store)
    : store.Distinct := by
  induction reachable with
  | empty => exact every_empty
  | after _ event ih => exact distinct_after ih event

-----------------------------------------------------------------------------------------
-- Trees of reachable stores
-----------------------------------------------------------------------------------------

/-- The trees of a store have distinct names where its nodes have. -/
theorem distinct_of_unfoldTo (distinct : store.Distinct) {depth : Nat} {id : NodeId}
    {schema : Schema} (unfolds : store.unfoldTo depth id = some schema)
    : schema.Distinct := by
  induction depth generalizing id schema with
  | zero => nomatch unfolds
  | succ depth ih =>
      obtain ⟨cell, found, tree⟩ := unfoldTo_succ_eq_some_iff.mp unfolds
      cases cell with
      | leaf registry leaf =>
          obtain rfl := Option.some.inj tree
          exact .leaf
      | array node =>
          obtain ⟨items, below, rfl⟩ := cellTree?_array_eq_some_iff.mp tree
          exact .array (ih below)
      | object node =>
          obtain ⟨mapped, replaced, rfl⟩ := Option.map_eq_some_iff.mp tree
          have every := ObjectNode.every_replaced_of_map? replaced
          refine .object ((distinct id _ found node rfl).map? replaced) ?_ ?_ ?_
          · intro entry member
            obtain ⟨child, below⟩ := every.properties entry member
            exact ih below
          · intro entry member
            obtain ⟨child, below⟩ := every.patterns entry member
            exact ih below
          · intro child given
            obtain ⟨other, below⟩ := every.additional child given
            exact ih below

end Store

end Assay
