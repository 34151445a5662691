import Assay.Proofs.Schema.Structure
import Assay.Store.Basic
import Mathlib

/-! The trees below the nodes of a store. A node that does not hold itself, however far down, has a
tree within as many levels as the store has nodes, and is checked as that tree.
-/

namespace Assay

-----------------------------------------------------------------------------------------
-- Children replaced
-----------------------------------------------------------------------------------------

variable {α β δ γ : Type}

/-- What is said of additional members keeps its policy when its child, if there is one, is
replaced. -/
theorem Additional.map?_eq_some_iff {f : α → Option β} {additional : Additional α}
    {mapped : Additional β}
    : additional.map? f = some mapped
      ↔ additional.policy = mapped.policy
        ∧ (additional.schema? = none ∧ mapped.schema? = none
          ∨ ∃ child other,
              additional.schema? = some child
              ∧ f child = some other
              ∧ mapped.schema? = some other) := by
  obtain ⟨policy, schema?⟩ := additional
  obtain ⟨policy', schema?'⟩ := mapped
  cases schema? with
  | none => simp [map?, eq_comm]
  | some child =>
      simp only [map?, Option.map_eq_some_iff, mk.injEq, reduceCtorEq, false_and, false_or,
        Option.some.injEq, eq_comm (a := schema?'), exists_and_left, exists_eq_left']
      simp only [and_left_comm, exists_and_left]

namespace ObjectNode

theorem mapEntries?_mono {f g : α → Option β} {entries : List (γ × α)} {mapped : List (γ × β)}
    (grows : ∀ entry ∈ entries, ∀ other, f entry.2 = some other → g entry.2 = some other)
    (found : mapEntries? f entries = some mapped)
    : mapEntries? g entries = some mapped := by
  induction entries generalizing mapped with
  | nil => exact found
  | cons entry rest ih =>
      obtain ⟨here, later⟩ := List.forall_mem_cons.mp grows
      obtain ⟨other, others, replaced, rest, same⟩ := mapEntries?_cons_eq_some_iff.mp found
      exact mapEntries?_cons_eq_some_iff.mpr
        ⟨other, others, here other replaced, ih later rest, same⟩

/-- A node that can be replaced child by child is replaced alike by whatever replaces each of its
children alike. -/
theorem map?_mono {f g : α → Option β} {node : ObjectNode α} {mapped : ObjectNode β}
    (grows : node.Every fun child => ∀ other, f child = some other → g child = some other)
    (found : node.map? f = some mapped)
    : node.map? g = some mapped := by
  obtain ⟨properties, required, patterns, additional⟩ := map?_eq_some_iff.mp found
  refine map?_eq_some_iff.mpr
    ⟨mapEntries?_mono grows.properties properties, required,
      mapEntries?_mono grows.patterns patterns, ?_⟩
  obtain ⟨policy, schema⟩ := Additional.map?_eq_some_iff.mp additional
  refine Additional.map?_eq_some_iff.mpr ⟨policy, schema.imp_right ?_⟩
  rintro ⟨child, other, given, replaced, same⟩
  exact ⟨child, other, given, grows.additional child given other replaced, same⟩

theorem exists_of_mapEntries? {f : α → Option β} {entries : List (γ × α)}
    {mapped : List (γ × β)} (found : mapEntries? f entries = some mapped)
    : ∀ entry ∈ entries, ∃ other, f entry.2 = some other := by
  induction entries generalizing mapped with
  | nil => exact fun entry member => nomatch member
  | cons entry rest ih =>
      obtain ⟨other, others, replaced, rest, -⟩ := mapEntries?_cons_eq_some_iff.mp found
      exact List.forall_mem_cons.mpr ⟨⟨other, replaced⟩, ih rest⟩

/-- The names of entries stay as they are when each child is replaced. -/
theorem map_fst_of_mapEntries? {f : α → Option β} {entries : List (γ × α)}
    {mapped : List (γ × β)} (found : mapEntries? f entries = some mapped)
    : mapped.map (·.1) = entries.map (·.1) := by
  induction entries generalizing mapped with
  | nil =>
      obtain rfl := Option.some.inj found
      rfl
  | cons entry rest ih =>
      obtain ⟨other, others, -, rest, rfl⟩ := mapEntries?_cons_eq_some_iff.mp found
      exact congrArg (entry.1 :: ·) (ih rest)

/-- Each entry of a replaced list comes of replacing a child. -/
theorem replaced_of_mapEntries? {f : α → Option β} {entries : List (γ × α)}
    {mapped : List (γ × β)} (found : mapEntries? f entries = some mapped)
    : ∀ entry ∈ mapped, ∃ child, f child = some entry.2 := by
  induction entries generalizing mapped with
  | nil =>
      obtain rfl := Option.some.inj found
      exact fun entry member => nomatch member
  | cons entry rest ih =>
      obtain ⟨other, others, replaced, rest, rfl⟩ := mapEntries?_cons_eq_some_iff.mp found
      exact List.forall_mem_cons.mpr ⟨⟨entry.2, replaced⟩, ih rest⟩

/-- Where a node is replaced, so is each of its children. -/
theorem every_of_map? {f : α → Option β} {node : ObjectNode α} {mapped : ObjectNode β}
    (found : node.map? f = some mapped)
    : node.Every fun child => ∃ other, f child = some other := by
  obtain ⟨properties, -, patterns, additional⟩ := map?_eq_some_iff.mp found
  refine ⟨exists_of_mapEntries? properties, exists_of_mapEntries? patterns, ?_⟩
  intro child given
  obtain ⟨-, ⟨absent, -⟩ | ⟨child', other, given', replaced, -⟩⟩ :=
    Additional.map?_eq_some_iff.mp additional
  · nomatch absent.symm.trans given
  · obtain rfl := Option.some.inj (given.symm.trans given')
    exact ⟨other, replaced⟩

/-- Each child of a node with its children replaced is the replacement of one. -/
theorem every_replaced_of_map? {f : α → Option β} {node : ObjectNode α} {mapped : ObjectNode β}
    (found : node.map? f = some mapped)
    : mapped.Every fun other => ∃ child, f child = some other := by
  obtain ⟨properties, -, patterns, additional⟩ := map?_eq_some_iff.mp found
  refine ⟨replaced_of_mapEntries? properties, replaced_of_mapEntries? patterns, ?_⟩
  intro other given
  obtain ⟨-, ⟨-, absent⟩ | ⟨child, other', -, replaced, same⟩⟩ :=
    Additional.map?_eq_some_iff.mp additional
  · nomatch absent.symm.trans given
  · obtain rfl := Option.some.inj (given.symm.trans same)
    exact ⟨child, replaced⟩

theorem mapEntries_of_mapEntries? {f : α → Option β} {g : α → δ} {h : β → δ}
    (agrees : ∀ child other, f child = some other → g child = h other)
    {entries : List (γ × α)} {mapped : List (γ × β)} (found : mapEntries? f entries = some mapped)
    : mapEntries g entries = mapEntries h mapped := by
  induction entries generalizing mapped with
  | nil =>
      obtain rfl := Option.some.inj found
      rfl
  | cons entry rest ih =>
      obtain ⟨other, others, replaced, rest, rfl⟩ := mapEntries?_cons_eq_some_iff.mp found
      have ih := ih rest
      simp only [mapEntries] at ih
      simp [mapEntries, agrees entry.2 other replaced, ih]

/-- What is made of the children of a node is made of their replacements, if the two agree. -/
theorem map_of_map? {f : α → Option β} {g : α → δ} {h : β → δ}
    (agrees : ∀ child other, f child = some other → g child = h other)
    {node : ObjectNode α} {mapped : ObjectNode β} (found : node.map? f = some mapped)
    : node.map g = mapped.map h := by
  obtain ⟨properties, required, patterns, additional⟩ := map?_eq_some_iff.mp found
  simp only [map, mapEntries_of_mapEntries? agrees properties, required,
    mapEntries_of_mapEntries? agrees patterns, mk.injEq, true_and]
  obtain ⟨policy, ⟨absent, absent'⟩ | ⟨child, other, given, replaced, given'⟩⟩ :=
    Additional.map?_eq_some_iff.mp additional
  · simp only [Additional.map, policy, absent, absent', Option.map_none]
  · simp only [Additional.map, policy, given, given', Option.map_some, agrees child other replaced]

end ObjectNode

-----------------------------------------------------------------------------------------
-- Unfolding
-----------------------------------------------------------------------------------------

/-- The nodes that a cell holds as children. -/
inductive Cell.Holds : Cell → NodeId → Prop
  | items {node} : (Cell.array node).Holds node.items
  | property {node entry} (declared : entry ∈ node.properties) : (Cell.object node).Holds entry.2
  | pattern {node entry} (listed : entry ∈ node.patterns) : (Cell.object node).Holds entry.2
  | additional {node child} (given : node.additional.schema? = some child)
    : (Cell.object node).Holds child

namespace Store

variable {store : Store} {formats : Registries}

/-- The tree of a cell whose children have the trees given by `below`. -/
def cellTree? (below : NodeId → Option Schema)
    : Cell → Option Schema
  | .leaf registry leaf => some (.leaf registry leaf)
  | .array node => (node.map? below).map .array
  | .object node => (node.map? below).map .object

/-- The tree of an array has the tree of its items and the same bounds. -/
theorem cellTree?_array_eq_some_iff {below : NodeId → Option Schema} {node : ArrayNode NodeId}
    {schema : Schema}
    : cellTree? below (.array node) = some schema
      ↔ ∃ items,
          below node.items = some items
          ∧ schema = .array ⟨items, node.minItems, node.maxItems⟩ := by
  cases found : below node.items with
  | none => simp [cellTree?, ArrayNode.map?, found]
  | some items => simp [cellTree?, ArrayNode.map?, found, eq_comm]

theorem unfoldTo_succ_eq_some_iff {depth : Nat} {id : NodeId} {schema : Schema}
    : store.unfoldTo (depth + 1) id = some schema
      ↔ ∃ cell,
          store.get? id = some cell
          ∧ cellTree? (store.unfoldTo depth) cell = some schema := by
  rw [unfoldTo]
  cases store.get? id with
  | none => simp
  | some cell => cases cell <;> simp [cellTree?, Option.bind_eq_some_iff]

theorem cellTree?_mono {f g : NodeId → Option Schema} {cell : Cell} {schema : Schema}
    (grows : ∀ child tree, cell.Holds child → f child = some tree → g child = some tree)
    (found : cellTree? f cell = some schema)
    : cellTree? g cell = some schema := by
  cases cell with
  | leaf registry leaf => exact found
  | array node =>
      obtain ⟨items, replaced, rfl⟩ := cellTree?_array_eq_some_iff.mp found
      exact cellTree?_array_eq_some_iff.mpr ⟨items, grows _ items .items replaced, rfl⟩
  | object node =>
      obtain ⟨mapped, replaced, rfl⟩ := Option.map_eq_some_iff.mp found
      refine Option.map_eq_some_iff.mpr ⟨mapped, ObjectNode.map?_mono ?_ replaced, rfl⟩
      exact {
        properties := fun _ declared tree => grows _ tree (.property declared)
        patterns := fun _ listed tree => grows _ tree (.pattern listed)
        additional := fun _ given tree => grows _ tree (.additional given)
      }

/-- Where a cell has a tree, so has each of its children. -/
theorem exists_of_cellTree? {below : NodeId → Option Schema} {cell : Cell} {schema : Schema}
    (found : cellTree? below cell = some schema) {child : NodeId} (holds : cell.Holds child)
    : ∃ tree, below child = some tree := by
  cases cell with
  | leaf registry leaf => nomatch holds
  | array node =>
      obtain ⟨items, replaced, -⟩ := cellTree?_array_eq_some_iff.mp found
      cases holds with
      | items => exact ⟨items, replaced⟩
  | object node =>
      obtain ⟨mapped, replaced, -⟩ := Option.map_eq_some_iff.mp found
      have every := ObjectNode.every_of_map? replaced
      cases holds with
      | property declared => exact every.properties _ declared
      | pattern listed => exact every.patterns _ listed
      | additional given => exact every.additional _ given

/-- Deeper unfolding changes no tree. -/
theorem unfoldTo_mono {depth deeper : Nat} (le : depth ≤ deeper) {id : NodeId} {schema : Schema}
    (unfolds : store.unfoldTo depth id = some schema)
    : store.unfoldTo deeper id = some schema := by
  induction depth generalizing deeper id schema with
  | zero => nomatch unfolds
  | succ depth ih =>
      obtain ⟨deeper, rfl⟩ := Nat.exists_eq_add_of_le' (Nat.zero_lt_of_lt le)
      obtain ⟨cell, found, tree⟩ := unfoldTo_succ_eq_some_iff.mp unfolds
      refine unfoldTo_succ_eq_some_iff.mpr ⟨cell, found, cellTree?_mono ?_ tree⟩
      exact fun child tree _ => ih (Nat.le_of_succ_le_succ le)

/-- A node is checked as its tree. -/
theorem checkTo_eq_of_unfoldTo {depth : Nat} {id : NodeId} {schema : Schema}
    (unfolds : store.unfoldTo depth id = some schema)
    : store.checkTo formats depth id = schema.check formats := by
  induction depth generalizing id schema with
  | zero => nomatch unfolds
  | succ depth ih =>
      obtain ⟨cell, found, tree⟩ := unfoldTo_succ_eq_some_iff.mp unfolds
      funext value
      rw [checkTo, found]
      cases cell with
      | leaf registry leaf =>
          obtain rfl := Option.some.inj tree
          rfl
      | array node =>
          obtain ⟨items, below, rfl⟩ := cellTree?_array_eq_some_iff.mp tree
          simp only [Schema.check_array, ArrayNode.map, ih below]
      | object node =>
          obtain ⟨mapped, below, rfl⟩ := Option.map_eq_some_iff.mp tree
          have same : node.map (store.checkTo formats depth) = mapped.map (Schema.check formats) :=
            ObjectNode.map_of_map? (fun _ _ => ih) below
          rw [Schema.check_object, ← same]

-----------------------------------------------------------------------------------------
-- The depth of trees
-----------------------------------------------------------------------------------------

/-- One node holds another one as a child. -/
def Holds (store : Store) (id child : NodeId)
    : Prop :=
  ∃ cell, store.get? id = some cell ∧ cell.Holds child

/-- A child of a node that unfolds does so one level less deep. -/
theorem unfolds_of_holds {depth : Nat} {id child : NodeId} {schema : Schema}
    (unfolds : store.unfoldTo (depth + 1) id = some schema) (holds : store.Holds id child)
    : ∃ tree, store.unfoldTo depth child = some tree := by
  obtain ⟨cell, found, tree⟩ := unfoldTo_succ_eq_some_iff.mp unfolds
  obtain ⟨cell', found', holds⟩ := holds
  obtain rfl := Option.some.inj (found.symm.trans found')
  exact exists_of_cellTree? tree holds

/-- Whatever is below a node that unfolds does so less deep. -/
theorem unfolds_of_below {depth : Nat} {id other : NodeId} {schema : Schema}
    (below : Relation.TransGen store.Holds id other)
    (unfolds : store.unfoldTo (depth + 1) id = some schema)
    : ∃ tree, store.unfoldTo depth other = some tree := by
  induction below with
  | single holds => exact unfolds_of_holds unfolds holds
  | tail _ holds ih =>
      obtain ⟨tree, between⟩ := ih
      exact unfolds_of_holds (unfoldTo_mono (Nat.le_succ depth) between) holds

/-- A node that holds itself, however far down, has no tree. -/
theorem unfoldTo_eq_none_of_cyclic {id : NodeId} (cyclic : Relation.TransGen store.Holds id id)
    (depth : Nat)
    : store.unfoldTo depth id = none := by
  induction depth with
  | zero => rfl
  | succ depth ih =>
      refine Option.eq_none_iff_forall_ne_some.mpr fun schema unfolds => ?_
      obtain ⟨tree, again⟩ := unfolds_of_below cyclic unfolds
      nomatch ih.symm.trans again

/-- A node unfolds within as many levels as there are nodes to reach from it: no node is below
itself, so each level takes one of them away. -/
theorem unfoldTo_card {depth : Nat} {id : NodeId} {schema : Schema}
    (unfolds : store.unfoldTo depth id = some schema) {nodes : Finset NodeId}
    (reached : ∀ other, Relation.ReflTransGen store.Holds id other → other ∈ nodes)
    : store.unfoldTo nodes.card id = some schema := by
  induction depth generalizing id schema nodes with
  | zero => nomatch unfolds
  | succ depth ih =>
      have here : id ∈ nodes := reached id .refl
      rw [← Finset.card_erase_add_one here]
      obtain ⟨cell, found, tree⟩ := unfoldTo_succ_eq_some_iff.mp unfolds
      refine unfoldTo_succ_eq_some_iff.mpr ⟨cell, found, cellTree?_mono ?_ tree⟩
      intro child below holds unfoldsChild
      have down : store.Holds id child := ⟨cell, found, holds⟩
      refine ih unfoldsChild fun other path => ?_
      refine Finset.mem_erase.mpr ⟨?_, reached other (.head down path)⟩
      rintro rfl
      nomatch (unfoldTo_eq_none_of_cyclic (.head' down path) _).symm.trans unfolds

/-- A node that unfolds at all has a tree: the store is deep enough. -/
theorem tree?_of_unfoldTo {depth : Nat} {id : NodeId} {schema : Schema}
    (unfolds : store.unfoldTo depth id = some schema)
    : store.tree? id = some schema := by
  have reached : ∀ other, Relation.ReflTransGen store.Holds id other
      → other ∈ Finset.range store.cells.size := by
    intro other path
    have deeper := unfoldTo_mono (Nat.le_succ depth) unfolds
    obtain ⟨tree, found⟩ : ∃ tree, store.unfoldTo (depth + 1) other = some tree := by
      rcases Relation.reflTransGen_iff_eq_or_transGen.mp path with rfl | below
      · exact ⟨schema, deeper⟩
      · obtain ⟨tree, found⟩ := unfolds_of_below below deeper
        exact ⟨tree, unfoldTo_mono (Nat.le_succ depth) found⟩
    obtain ⟨cell, present, -⟩ := unfoldTo_succ_eq_some_iff.mp found
    exact Finset.mem_range.mpr (Array.getElem?_eq_some_iff.mp present).1
  simpa [tree?] using unfoldTo_card unfolds reached

/-- A node that unfolds is checked as its tree. -/
theorem check_eq_of_unfoldTo {depth : Nat} {id : NodeId} {schema : Schema}
    (unfolds : store.unfoldTo depth id = some schema)
    : store.check formats id = schema.check formats :=
  checkTo_eq_of_unfoldTo (tree?_of_unfoldTo unfolds)

end Store

end Assay
