import Assay.Proofs.Store.Closed
import Assay.Proofs.Store.Trees

/-! Trees that are put into a store and read back. The tree below the root of a tree that has been
added is that tree, since nodes are only ever added behind the ones that are there.
-/

namespace Assay.Store

variable {before after store : Store} {id : NodeId} {schema : Schema}

-----------------------------------------------------------------------------------------
-- Stores that grow
-----------------------------------------------------------------------------------------

/-- A tree stays below its node in a store that has further nodes, by induction on its depth. -/
theorem Extends.unfoldTo (extended : before.Extends after) {depth : Nat}
    (unfolds : before.unfoldTo depth id = some schema)
    : after.unfoldTo depth id = some schema := by
  induction depth generalizing id schema with
  | zero => nomatch unfolds
  | succ depth ih =>
      obtain ⟨cell, found, tree⟩ := unfoldTo_succ_eq_some_iff.mp unfolds
      refine unfoldTo_succ_eq_some_iff.mpr ⟨cell, extended id cell found, cellTree?_mono ?_ tree⟩
      exact fun child other _ => ih

theorem Extends.tree? (extended : before.Extends after) (tree : before.tree? id = some schema)
    : after.tree? id = some schema :=
  tree?_of_unfoldTo (extended.unfoldTo tree)

/-- A cell whose children have trees already has the tree that they make up. -/
theorem tree?_add {cell : Cell} (tree : cellTree? store.tree? cell = some schema)
    : (store.add cell).2.tree? (store.add cell).1 = some schema := by
  have extended : store.Extends (store.add cell).2 := extends_add store cell
  have below : cellTree? (store.add cell).2.tree? cell = some schema :=
    cellTree?_mono (fun child other _ => extended.tree?) tree
  exact tree?_of_unfoldTo (unfoldTo_succ_eq_some_iff.mpr ⟨cell, get?_add_self store cell, below⟩)

-----------------------------------------------------------------------------------------
-- Trees read back
-----------------------------------------------------------------------------------------

/-- What has been added to a store is read back as a tree. -/
def ReadsBack (added : NodeId × Store) (schema : Schema)
    : Prop :=
  added.2.tree? added.1 = some schema

theorem readsBack_addEntries {γ : Type} {entries : List (γ × Schema)}
    (each : ∀ entry ∈ entries, ∀ store : Store, ReadsBack (addTree entry.2 store) entry.2)
    : ObjectNode.mapEntries? (addEntries entries store).2.tree? (addEntries entries store).1
      = some entries := by
  induction entries generalizing store with
  | nil => rfl
  | cons entry rest ih =>
      obtain ⟨name, child⟩ := entry
      obtain ⟨first, later⟩ := List.forall_mem_cons.mp each
      refine ObjectNode.mapEntries?_cons_eq_some_iff.mpr ⟨child, rest, ?_, ih later, rfl⟩
      exact (extends_addEntries rest _).tree? (first store)

theorem readsBack_addAdditional {additional : Additional Schema}
    (each
      : ∀ child,
          additional.schema? = some child
          → ∀ store : Store, ReadsBack (addTree child store) child)
    : (addAdditional additional store).1.map? (addAdditional additional store).2.tree?
      = some additional := by
  obtain ⟨policy, schema⟩ := additional
  cases schema with
  | none => rfl
  | some child =>
      have tree : (addTree child store).2.tree? (addTree child store).1 = some child :=
        each child rfl store
      simp only [addAdditional, Additional.map?, tree, Option.map_some]

/-- A tree that has been added is read back as it is, by induction on the tree: each child is added
first, and is still there when the nodes around it are. -/
theorem readsBack_addTree (schema : Schema) (store : Store)
    : ReadsBack (addTree schema store) schema := by
  induction schema using Schema.treeInduction generalizing store with
  | leaf registry leaf => exact tree?_add rfl
  | array node items =>
      exact tree?_add (cellTree?_array_eq_some_iff.mpr ⟨node.items, items store, rfl⟩)
  | object node below =>
      rw [addTree_object]
      refine tree?_add (Option.map_eq_some_iff.mpr ⟨node, ?_, rfl⟩)
      have patterned := extends_addEntries node.patterns (addEntries node.properties store).2
      have further := extends_addAdditional node.additional
        (addEntries node.patterns (addEntries node.properties store).2).2
      refine ObjectNode.map?_eq_some_iff.mpr ⟨?_, rfl, ?_, ?_⟩
      · exact ObjectNode.mapEntries?_mono
          (fun entry _ other tree => (patterned.trans further).tree? tree)
          (readsBack_addEntries below.properties)
      · exact ObjectNode.mapEntries?_mono (fun entry _ other tree => further.tree? tree)
          (readsBack_addEntries below.patterns)
      · exact readsBack_addAdditional below.additional

/-- A node is of the kind of its tree. -/
theorem kind_of_tree? (tree : store.tree? id = some schema)
    : ∃ cell, store.get? id = some cell ∧ cell.kind = schema.kind := by
  have deeper : store.unfoldTo (store.cells.size + 1) id = some schema :=
    unfoldTo_mono (Nat.le_succ _) tree
  obtain ⟨cell, found, made⟩ := unfoldTo_succ_eq_some_iff.mp deeper
  refine ⟨cell, found, ?_⟩
  cases cell with
  | leaf registry leaf =>
      obtain rfl := Option.some.inj made
      rfl
  | array node =>
      obtain ⟨items, -, rfl⟩ := cellTree?_array_eq_some_iff.mp made
      rfl
  | object node =>
      obtain ⟨mapped, -, rfl⟩ := Option.map_eq_some_iff.mp made
      rfl

end Assay.Store
