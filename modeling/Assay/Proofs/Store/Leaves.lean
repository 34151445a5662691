import Assay.Proofs.Definition.Stopping
import Assay.Proofs.Leaf.Consistency
import Assay.Proofs.Store.Histories

/-! Leaves stay consistent whatever happens to a store, as long as their registry holds the same
formats each time. So do leaves that are compiled, whose fields are assigned one after the other.
-/

namespace Assay

-----------------------------------------------------------------------------------------
-- Leaves of compiled trees
-----------------------------------------------------------------------------------------

namespace Definition
open Assembly

variable {setting : Setting} {members : Members} {leaf after : Leaf}

theorem assignKeyword_consistent {keyword : Keyword} {field : LeafField} {expected : Value → Bool}
    {refusal : Keyword → Value → Refusal} (consistent : leaf.Consistent setting.formats)
    (built : (assignKeyword setting members keyword field expected refusal leaf).Builds after)
    : after.Consistent setting.formats := by
  rcases withKeyword_builds_iff.mp built with ⟨-, rfl⟩ | ⟨value, -, built⟩
  · exact consistent
  · split at built
    · exact Leaf.consistent_of_assign consistent (assigned_builds_iff.mp built)
    · exact absurd built not_refuse_builds

theorem assignFlag_consistent {keyword : Keyword} {field : LeafField}
    (consistent : leaf.Consistent setting.formats)
    (built : (assignFlag setting members keyword field leaf).Builds after)
    : after.Consistent setting.formats := by
  rcases withKeyword_builds_iff.mp built with ⟨-, rfl⟩ | ⟨value, -, built⟩
  · exact consistent
  · split at built
    · obtain rfl := result_builds_iff.mp built
      exact consistent
    · obtain rfl := result_builds_iff.mp built
      exact consistent
    · exact Leaf.consistent_of_assign consistent (assigned_builds_iff.mp built)
    · exact absurd built not_refuse_builds

/-- The leaf of a definition is consistent, as each keyword leaves it so. -/
theorem leafOf_consistent {type : Value} (built : (leafOf setting members type).Builds leaf)
    : leaf.Consistent setting.formats := by
  simp only [leafOf, bind_builds_iff] at built
  obtain ⟨_, typed, _, withPattern, -, -, _, withFormat, _, withMinLength, _, withMaxLength, _,
    withMinimum, _, withMaximum, _, withMinFlag, _, withMaxFlag, withEnumeration⟩ := built
  have consistent := Leaf.consistent_of_ofFields (assigned_builds_iff.mp typed)
  replace consistent := assignKeyword_consistent consistent withPattern
  replace consistent := assignKeyword_consistent consistent withFormat
  replace consistent := assignKeyword_consistent consistent withMinLength
  replace consistent := assignKeyword_consistent consistent withMaxLength
  replace consistent := assignKeyword_consistent consistent withMinimum
  replace consistent := assignKeyword_consistent consistent withMaximum
  replace consistent := assignFlag_consistent consistent withMinFlag
  replace consistent := assignFlag_consistent consistent withMaxFlag
  exact assignKeyword_consistent consistent withEnumeration

/-- What a definition is compiled to is a consistent leaf of its registry, if it is a leaf. -/
theorem compile_leaf {definition : Value} {registry : RegistryId}
    (built : (compile setting definition).Builds (.leaf registry leaf))
    : registry = setting.registry ∧ leaf.Consistent setting.formats := by
  cases definition with
  | object members =>
      rw [compile] at built
      split at built
      · simp only [bind_builds_iff, not_refuse_builds, false_and, exists_false] at built
      · obtain ⟨-, -, built⟩ := bind_builds_iff.mp built
        obtain ⟨type, -, built⟩ := bind_builds_iff.mp built
        rw [caught_builds_iff] at built
        split at built
        · simp only [bind_builds_iff, complete_builds_iff, reduceCtorEq, and_false,
            exists_false] at built
        · split at built
          · simp only [bind_builds_iff, complete_builds_iff, reduceCtorEq, and_false,
              exists_false] at built
          · simp only [bind_builds_iff, complete_builds_iff] at built
            obtain ⟨-, -, -, -, leaf, fields, ⟨⟩⟩ := built
            exact ⟨rfl, leafOf_consistent fields⟩
  | _ => exact absurd built not_refuse_builds

/-- Whatever is in the tree of a schema that has been made has been made too. -/
theorem made_of_contains {schema node : Schema} (made : Made setting schema)
    (contains : schema.Contains node)
    : Made setting node := by
  induction contains with
  | refl => exact made
  | tail _ holds ih => exact made_of_holds ih holds

/-- The leaves of a compiled tree are consistent, if the formats are those of their registry. -/
theorem leaves_of_compile {definition : Value} {schema : Schema} {registry : RegistryId}
    {formats : FormatRegistry} (built : (compile setting definition).Builds schema)
    (known : setting.registry = registry → setting.formats = formats)
    (contains : schema.Contains (.leaf registry leaf))
    : leaf.Consistent formats := by
  rcases made_of_contains (Or.inr ⟨definition, built⟩) contains with anything | ⟨inside, built⟩
  · cases anything
    exact Leaf.consistent_initial
  · obtain ⟨same, consistent⟩ := compile_leaf built
    exact known same.symm ▸ consistent

end Definition

-----------------------------------------------------------------------------------------
-- Leaves of stores
-----------------------------------------------------------------------------------------

variable {registry : RegistryId} {held : FormatRegistry}

/-- A cell that holds a leaf of a registry holds a consistent one. -/
def Cell.Consistent (registry : RegistryId) (held : FormatRegistry) (cell : Cell)
    : Prop :=
  ∀ leaf, cell = .leaf registry leaf → leaf.Consistent held

theorem Cell.consistent_array (node : ArrayNode NodeId)
    : (Cell.array node).Consistent registry held := by
  intro leaf same
  cases same

theorem Cell.consistent_object (node : ObjectNode NodeId)
    : (Cell.object node).Consistent registry held := by
  intro leaf same
  cases same

/-- A registry holds some formats in an event that consults it. -/
def Event.Consults (registry : RegistryId) (held : FormatRegistry)
    : Event → Prop
  | .leaf formats _ _ | .called formats _ _ => formats registry = held
  | .compiled setting _ => setting.registry = registry → setting.formats = held
  | .array _ | .object _ => True

namespace Store

variable {store : Store}

/-- A call leaves a leaf consistent that has been so. -/
theorem consistent_of_called {formats : Registries} {cell next : Cell} {call : NodeCall}
    (before : cell.Consistent registry held) (known : formats registry = held)
    (called : cell.called formats call = .ok next)
    : next.Consistent registry held := by
  cases cell with
  | leaf other leaf =>
      obtain ⟨value, changed, takes, rfl⟩ := takes_of_called_leaf called
      rintro _ ⟨⟩
      cases takes with
      | field set => exact Leaf.consistent_of_assign (before leaf rfl) (known ▸ set)
      | other => exact before leaf rfl
  | array node =>
      obtain ⟨changed, -, rfl⟩ := takes_of_called_array called
      exact Cell.consistent_array changed
  | object node =>
      obtain ⟨changed, -, rfl⟩ := takes_of_called_object called
      exact Cell.consistent_object changed

/-- An event leaves leaves consistent, new ones included. -/
theorem consistent_after {event : Event} (every : store.Every (Cell.Consistent registry held))
    (consults : event.Consults registry held)
    : (store.after event).Every (Cell.Consistent registry held) := by
  refine every_after every fun cell arises => ?_
  cases arises with
  | @leaf formats other arguments leaf built =>
      rintro _ ⟨⟩
      have known : formats registry = held := consults
      exact Leaf.consistent_of_ofFields (known ▸ built)
  | anything =>
      rintro _ ⟨⟩
      exact Leaf.consistent_initial
  | array => exact Cell.consistent_array _
  | object => exact Cell.consistent_object _
  | compiled built contained stands =>
      rintro leaf rfl
      cases stands with
      | leaf => exact Definition.leaves_of_compile built consults contained
  | called found _ called => exact consistent_of_called (every _ _ found) consults called

/-- The leaves of a store are consistent with what their registry holds, if it has held that all the
time, by induction on what has happened. -/
theorem consistent_afterAll {events : List Event}
    (every : store.Every (Cell.Consistent registry held))
    (consults : ∀ event ∈ events, event.Consults registry held)
    : (store.afterAll events).Every (Cell.Consistent registry held) := by
  induction events generalizing store with
  | nil => exact every
  | cons event rest ih =>
      obtain ⟨here, later⟩ := List.forall_mem_cons.mp consults
      exact ih (consistent_after every here) later

-----------------------------------------------------------------------------------------
-- Leaves of trees in a store
-----------------------------------------------------------------------------------------

/-- The children of a tree below a node are trees below nodes too. -/
theorem unfoldTo_of_holds {depth : Nat} {id : NodeId} {schema child : Schema}
    (unfolds : store.unfoldTo depth id = some schema) (holds : schema.Holds child)
    : ∃ depth place, store.unfoldTo depth place = some child := by
  cases depth with
  | zero => nomatch unfolds
  | succ depth =>
      obtain ⟨cell, -, tree⟩ := unfoldTo_succ_eq_some_iff.mp unfolds
      cases cell with
      | leaf registry leaf =>
          obtain rfl := Option.some.inj tree
          nomatch holds
      | array node =>
          obtain ⟨items, below, rfl⟩ := cellTree?_array_eq_some_iff.mp tree
          cases holds with
          | items => exact ⟨depth, node.items, below⟩
      | object node =>
          obtain ⟨mapped, replaced, rfl⟩ := Option.map_eq_some_iff.mp tree
          have every := ObjectNode.every_replaced_of_map? replaced
          cases holds with
          | property declared => exact ⟨depth, every.properties _ declared⟩
          | pattern listed => exact ⟨depth, every.patterns _ listed⟩
          | additional given => exact ⟨depth, every.additional _ given⟩

/-- A leaf of the tree below a node is one of the store. -/
theorem get?_of_contains {depth : Nat} {id : NodeId} {schema : Schema} {leaf : Leaf}
    (unfolds : store.unfoldTo depth id = some schema)
    (contains : schema.Contains (.leaf registry leaf))
    : ∃ place, store.get? place = some (.leaf registry leaf) := by
  have below : ∀ node, schema.Contains node
      → ∃ depth place, store.unfoldTo depth place = some node := by
    intro node contains
    induction contains with
    | refl => exact ⟨depth, id, unfolds⟩
    | tail _ holds ih =>
        obtain ⟨_, _, unfolds⟩ := ih
        exact unfoldTo_of_holds unfolds holds
  obtain ⟨depth, place, unfolds⟩ := below _ contains
  cases depth with
  | zero => nomatch unfolds
  | succ depth =>
      obtain ⟨cell, found, tree⟩ := unfoldTo_succ_eq_some_iff.mp unfolds
      cases cell with
      | leaf other leaf =>
          obtain ⟨⟩ := Option.some.inj tree
          exact ⟨place, found⟩
      | array node =>
          obtain ⟨items, -, same⟩ := cellTree?_array_eq_some_iff.mp tree
          cases same
      | object node =>
          obtain ⟨mapped, -, same⟩ := Option.map_eq_some_iff.mp tree
          cases same

end Store

end Assay
