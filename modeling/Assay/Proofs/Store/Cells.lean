import Assay.Proofs.Schema.Steps
import Assay.Store.Assign

/-! What holds of every cell of a store. It is kept when a cell that it holds of is put or added,
and so when the nodes of a tree are.
-/

namespace Assay

/-- A cell stands for a node of a tree: it is the node, but that its children have places now. What
is said of additional members has the same policy, and a child where there was one. -/
inductive Cell.StandsFor : Cell → Schema → Prop
  | leaf {registry leaf} : StandsFor (.leaf registry leaf) (.leaf registry leaf)
  | array {node items}
    : StandsFor (.array ⟨items, node.minItems, node.maxItems⟩) (.array node)
  | object {node properties patterns additional}
    (labels : properties.map (·.1) = node.properties.map (·.1))
    (slots : patterns.map (·.1) = node.patterns.map (·.1))
    (policy : additional.policy = node.additional.policy)
    (schema : additional.schema?.isSome = node.additional.schema?.isSome)
    : StandsFor (.object ⟨properties, node.required, patterns, additional⟩) (.object node)

namespace Store

/-- Something holds of every cell of a store. -/
def Every (holds : Cell → Prop) (store : Store)
    : Prop :=
  ∀ id cell, store.get? id = some cell → holds cell

variable {holds : Cell → Prop} {store : Store}

theorem every_empty
    : Every holds {} := by
  intro id cell found
  simp [get?] at found

theorem every_add (every : store.Every holds) {cell : Cell} (here : holds cell)
    : (store.add cell).2.Every holds := by
  intro id other found
  simp only [add, get?, Array.getElem?_push] at found
  split at found
  · obtain rfl := Option.some.inj found
    exact here
  · exact every id other found

theorem every_put (every : store.Every holds) (id : NodeId) {cell : Cell} (here : holds cell)
    : (store.put id cell).Every holds := by
  intro other found present
  simp only [put, get?, Array.getElem?_setIfInBounds] at present
  split at present
  · split at present
    · obtain rfl := Option.some.inj present
      exact here
    · cases present
  · exact every other found present

/-- The store with the trees of children under names of whatever kind, and the places of their
roots. -/
def addEntries {γ : Type}
    : List (γ × Schema) → Store → List (γ × NodeId) × Store
  | [], store => ([], store)
  | (name, child) :: rest, store =>
      let (child, store) := addTree child store
      let (others, store) := addEntries rest store
      ((name, child) :: others, store)

theorem addProperties_eq_addEntries (entries : List (Label × Schema)) (store : Store)
    : addProperties entries store = addEntries entries store := by
  induction entries generalizing store with
  | nil => rfl
  | cons entry rest ih =>
      obtain ⟨name, child⟩ := entry
      simp only [addProperties, addEntries, ih]

theorem addPatterns_eq_addEntries (entries : List (Slot Pattern × Schema)) (store : Store)
    : addPatterns entries store = addEntries entries store := by
  induction entries generalizing store with
  | nil => rfl
  | cons entry rest ih =>
      obtain ⟨pattern, child⟩ := entry
      simp only [addPatterns, addEntries, ih]

/-- The nodes of an object are added child by child, and the node itself behind them. -/
theorem addTree_object (node : ObjectNode Schema) (store : Store)
    : addTree (.object node) store =
        let properties := addEntries node.properties store
        let patterns := addEntries node.patterns properties.2
        let additional := addAdditional node.additional patterns.2
        additional.2.add
          (.object ⟨properties.1, node.required, patterns.1, additional.1⟩) := by
  simp only [addTree, addProperties_eq_addEntries, addPatterns_eq_addEntries]

theorem policy_addAdditional (additional : Additional Schema) (store : Store)
    : (addAdditional additional store).1.policy = additional.policy := by
  obtain ⟨policy, schema?⟩ := additional
  cases schema? <;> rfl

theorem isSome_addAdditional (additional : Additional Schema) (store : Store)
    : (addAdditional additional store).1.schema?.isSome = additional.schema?.isSome := by
  obtain ⟨policy, schema?⟩ := additional
  cases schema? <;> rfl

theorem map_fst_addEntries {γ : Type} (entries : List (γ × Schema)) (store : Store)
    : (addEntries entries store).1.map (·.1) = entries.map (·.1) := by
  induction entries generalizing store with
  | nil => rfl
  | cons entry rest ih => exact congrArg (entry.1 :: ·) (ih _)

-----------------------------------------------------------------------------------------
-- The nodes of a tree
-----------------------------------------------------------------------------------------

variable {kept : Store → Prop}

theorem keeps_addEntries {γ : Type} {entries : List (γ × Schema)}
    (each : ∀ entry ∈ entries, ∀ store : Store, kept store → kept (addTree entry.2 store).2)
    (here : kept store)
    : kept (addEntries entries store).2 := by
  induction entries generalizing store with
  | nil => exact here
  | cons entry rest ih =>
      obtain ⟨first, later⟩ := List.forall_mem_cons.mp each
      exact ih later (first store here)

theorem keeps_addAdditional {additional : Additional Schema}
    (each
      : ∀ child,
          additional.schema? = some child
          → ∀ store : Store, kept store → kept (addTree child store).2)
    (here : kept store)
    : kept (addAdditional additional store).2 := by
  obtain ⟨policy, schema?⟩ := additional
  cases schema? with
  | none => exact here
  | some child => exact each child rfl store here

/-- What is kept by adding whatever stands for a node of a tree is kept by adding the tree, by
induction on the tree. -/
theorem keeps_addTree {schema : Schema}
    (nodes
      : ∀ store node cell,
          schema.Contains node → cell.StandsFor node → kept store → kept (store.add cell).2)
    (here : kept store)
    : kept (addTree schema store).2 := by
  induction schema using Schema.treeInduction generalizing store with
  | leaf registry leaf => exact nodes store _ _ .refl .leaf here
  | array node items =>
      refine nodes _ _ _ .refl .array (items (fun store other cell contained => ?_) here)
      exact nodes store other cell (.head .items contained)
  | object node below =>
      rw [addTree_object]
      refine nodes _ _ _ .refl
        (.object (map_fst_addEntries _ _) (map_fst_addEntries _ _) (policy_addAdditional _ _)
          (isSome_addAdditional _ _)) ?_
      refine keeps_addAdditional (fun child given store => below.additional child given ?_) ?_
      · exact fun store other cell contained =>
          nodes store other cell (.head (.additional given) contained)
      refine keeps_addEntries (fun entry listed store => below.patterns entry listed ?_) ?_
      · exact fun store other cell contained =>
          nodes store other cell (.head (.pattern listed) contained)
      refine keeps_addEntries
        (fun entry declared store => below.properties entry declared ?_) here
      exact fun store other cell contained =>
        nodes store other cell (.head (.property declared) contained)

/-- What holds of every cell, and of whatever stands for a node of a tree, holds of every cell once
the tree has been added. -/
theorem every_addTree {schema : Schema} (every : store.Every holds)
    (nodes : ∀ node cell, schema.Contains node → cell.StandsFor node → holds cell)
    : (addTree schema store).2.Every holds := by
  refine keeps_addTree (fun store node cell contained stands before => ?_) every
  exact every_add before (nodes node cell contained stands)

end Store

end Assay
