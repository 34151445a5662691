import Assay.Proofs.Store.Containers

/-! Stores whose nodes hold nodes of the store alone. They stay so, whatever is made, compiled and
called, as long as what is given are nodes that are there.
-/

namespace Assay

-----------------------------------------------------------------------------------------
-- What a node holds after a call
-----------------------------------------------------------------------------------------

/-- A leaf holds nothing. -/
theorem Cell.not_holds_leaf {registry : RegistryId} {leaf : Leaf} {child : NodeId}
    : ¬(Cell.leaf registry leaf).Holds child := by
  intro holds
  cases holds

/-- After a call, an array holds the items that it held before, or what it has been given. -/
theorem ArrayNode.Takes.holds {node next : ArrayNode NodeId} {call : NodeCall} {child : NodeId}
    (takes : node.Takes call next) (holds : (Cell.array next).Holds child)
    : (Cell.array node).Holds child ∨ call.node? = some child := by
  cases takes with
  | items given =>
      cases holds with
      | items => exact Or.inr given
  | minItems | maxItems =>
      cases holds with
      | items => exact Or.inl .items
  | other => exact Or.inl holds

/-- After a call, an object holds children that it held before, and what it has been given. -/
theorem ObjectNode.Takes.holds {node next : ObjectNode NodeId} {call : NodeCall} {child : NodeId}
    (takes : node.Takes call next) (holds : (Cell.object next).Holds child)
    : (Cell.object node).Holds child ∨ call.node? = some child := by
  cases takes with
  | property named fresh given =>
      cases holds with
      | property declared =>
          rcases List.mem_append.mp declared with before | new
          · exact Or.inl (.property before)
          · exact Or.inr (List.mem_singleton.mp new ▸ given)
      | pattern listed => exact Or.inl (.pattern listed)
      | additional said => exact Or.inl (.additional said)
  | pattern read given =>
      cases holds with
      | property declared => exact Or.inl (.property declared)
      | pattern listed =>
          rcases List.mem_append.mp listed with before | new
          · exact Or.inl (.pattern before)
          · exact Or.inr (List.mem_singleton.mp new ▸ given)
      | additional said => exact Or.inl (.additional said)
  | required listed named =>
      cases holds with
      | property declared => exact Or.inl (.property declared)
      | pattern listed => exact Or.inl (.pattern listed)
      | additional said => exact Or.inl (.additional said)
  | additional said =>
      cases holds with
      | property declared => exact Or.inl (.property declared)
      | pattern listed => exact Or.inl (.pattern listed)
      | additional here =>
          rcases Value.additional?_cases (ObjectNode.additional_of_said said)
            with ⟨given, named, rfl⟩ | rfl | rfl
          · exact Or.inr (Option.some.inj here ▸ named)
          · cases here
          · cases here
  | other => exact Or.inl holds

namespace Store

variable {store before after : Store} {id child : NodeId} {cell : Cell} {formats : Registries}
  {call : NodeCall}

/-- The nodes of a store hold nodes of the store. -/
def Closed (store : Store)
    : Prop :=
  ∀ id child, store.Holds id child → store.Has child

-----------------------------------------------------------------------------------------
-- Calls on closed stores
-----------------------------------------------------------------------------------------

theorem size_put (store : Store) (id : NodeId) (cell : Cell)
    : (store.put id cell).cells.size = store.cells.size := by
  simp [put]

theorem has_put_iff {other : NodeId}
    : (store.put id cell).Has other ↔ store.Has other := by
  rw [has_iff_lt, has_iff_lt, size_put]

/-- A cell that holds nodes of a store is held by nodes that are there. -/
theorem closed_put (closed : store.Closed) (held : ∀ child, cell.Holds child → store.Has child)
    : (store.put id cell).Closed := by
  rintro other child ⟨there, found, holds⟩
  rw [has_put_iff]
  by_cases same : other = id
  · subst same
    rw [get?_put_self store cell (has_put_iff.mp ⟨there, found⟩ |> has_iff_lt.mp)] at found
    obtain rfl := Option.some.inj found
    exact held child holds
  · rw [get?_put_of_ne store cell same] at found
    exact closed other child ⟨there, found, holds⟩

/-- A call that is only given nodes of a closed store leaves it closed. -/
theorem closed_of_call (closed : store.Closed) (knows : store.Knows [call])
    (done : store.call formats id call = .ok after)
    : after.Closed := by
  have given : ∀ child, call.node? = some child → store.Has child := knows call List.mem_cons_self
  obtain ⟨-, ⟨cell, found⟩, -⟩ := exists_put_of_call done
  cases cell with
  | leaf registry leaf =>
      obtain ⟨_, next, -, rfl⟩ := takes_of_call_leaf found done
      exact closed_put closed fun child holds => absurd holds Cell.not_holds_leaf
  | array node =>
      obtain ⟨next, takes, rfl⟩ := takes_of_call_array found done
      refine closed_put closed fun child holds => ?_
      exact (takes.holds holds).elim (closed id child ⟨_, found, ·⟩) (given child)
  | object node =>
      obtain ⟨next, takes, rfl⟩ := takes_of_call_object found done
      refine closed_put closed fun child holds => ?_
      exact (takes.holds holds).elim (closed id child ⟨_, found, ·⟩) (given child)

-----------------------------------------------------------------------------------------
-- Closed stores after any events
-----------------------------------------------------------------------------------------

theorem Extends.has (extended : before.Extends after) (has : before.Has id)
    : after.Has id := by
  obtain ⟨cell, found⟩ := has
  exact ⟨cell, extended id cell found⟩

/-- A new node may hold what is there. -/
theorem closed_add (closed : store.Closed) (held : ∀ child, cell.Holds child → store.Has child)
    : (store.add cell).2.Closed := by
  rintro id child ⟨there, found, holds⟩
  refine (extends_add store cell).has ?_
  simp only [add, get?, Array.getElem?_push] at found
  split at found
  · obtain rfl := Option.some.inj found
    exact held child holds
  · exact closed id child ⟨there, found, holds⟩

/-- What has been added to a store is a node of a closed store. -/
def Added (added : NodeId × Store)
    : Prop :=
  added.2.Closed ∧ added.2.Has added.1

theorem added_add (closed : store.Closed) (held : ∀ child, cell.Holds child → store.Has child)
    : Added (store.add cell) :=
  ⟨closed_add closed held, cell, get?_add_self store cell⟩

theorem extends_addEntries {γ : Type} (entries : List (γ × Schema)) (store : Store)
    : store.Extends (addEntries entries store).2 :=
  @keeps_addEntries store store.Extends γ entries
    (fun entry _ later before => before.trans (extends_addTree entry.2 later)) (.refl store)

theorem extends_addAdditional (additional : Additional Schema) (store : Store)
    : store.Extends (addAdditional additional store).2 :=
  @keeps_addAdditional store store.Extends additional
    (fun child _ later before => before.trans (extends_addTree child later)) (.refl store)

theorem closed_addEntries {γ : Type} {entries : List (γ × Schema)}
    (each : ∀ entry ∈ entries, ∀ store : Store, store.Closed → Added (addTree entry.2 store))
    (closed : store.Closed)
    : (addEntries entries store).2.Closed
      ∧ ∀ entry ∈ (addEntries entries store).1, (addEntries entries store).2.Has entry.2 := by
  induction entries generalizing store with
  | nil => exact ⟨closed, nofun⟩
  | cons entry rest ih =>
      obtain ⟨first, later⟩ := List.forall_mem_cons.mp each
      obtain ⟨closed, has⟩ := first store closed
      obtain ⟨closed', listed⟩ := ih later closed
      exact ⟨closed', List.forall_mem_cons.mpr ⟨(extends_addEntries rest _).has has, listed⟩⟩

theorem closed_addAdditional {additional : Additional Schema}
    (each
      : ∀ child,
          additional.schema? = some child
          → ∀ store : Store, store.Closed → Added (addTree child store))
    (closed : store.Closed)
    : (addAdditional additional store).2.Closed
      ∧ ∀ child,
          (addAdditional additional store).1.schema? = some child
          → (addAdditional additional store).2.Has child := by
  obtain ⟨policy, schema⟩ := additional
  cases schema with
  | none => exact ⟨closed, nofun⟩
  | some child =>
      obtain ⟨closed, has⟩ := each child rfl store closed
      exact ⟨closed, fun other same => Option.some.inj same ▸ has⟩

/-- The nodes of a tree hold each other, by induction on the tree. -/
theorem added_addTree (schema : Schema) (closed : store.Closed)
    : Added (addTree schema store) := by
  induction schema using Schema.treeInduction generalizing store with
  | leaf registry leaf =>
      exact added_add closed fun child holds => absurd holds Cell.not_holds_leaf
  | array node items =>
      obtain ⟨closed, has⟩ := items closed
      refine added_add closed fun child holds => ?_
      cases holds with
      | items => exact has
  | object node below =>
      rw [addTree_object]
      obtain ⟨closed, properties⟩ :=
        closed_addEntries (fun entry listed _ => below.properties entry listed) closed
      obtain ⟨closed, patterns⟩ :=
        closed_addEntries (fun entry listed _ => below.patterns entry listed) closed
      obtain ⟨closed, additional⟩ :=
        closed_addAdditional (fun child given _ => below.additional child given) closed
      refine added_add closed fun child holds => ?_
      cases holds with
      | property declared =>
          have has := (extends_addEntries node.patterns _).has (properties _ declared)
          exact (extends_addAdditional _ _).has has
      | pattern listed => exact (extends_addAdditional _ _).has (patterns _ listed)
      | additional given => exact additional child given

/-- Calls and new nodes that are only given nodes of a closed store leave it closed. -/
theorem closed_after {event : Event} (closed : store.Closed) (knows : store.Knows (callsOf event))
    : (store.after event).Closed := by
  have becomes := store.becomes_after event
  generalize store.after event = later at becomes ⊢
  cases becomes with
  | same => exact closed
  | leaf => exact closed_add closed fun child holds => absurd holds Cell.not_holds_leaf
  | array built =>
      obtain ⟨closed', has⟩ := added_addTree Schema.anything closed
      refine closed_add closed' fun child holds => ?_
      cases holds with
      | items =>
          refine (arrayOf_accounts built).has_items (fun call listed child given => ?_) has
          exact (extends_addTree Schema.anything store).has (knows call listed child given)
  | object built =>
      have every := (objectOf_accounts built).every knows
      refine closed_add closed fun child holds => ?_
      cases holds with
      | property declared => exact every.properties _ declared
      | pattern listed => exact every.patterns _ listed
      | additional given => exact every.additional _ given
  | compiled => exact (added_addTree _ closed).1
  | @called formats id cell call effect next found comes called =>
      have done : store.call formats id effect = .ok (store.put id next) :=
        call_eq_ok_iff.mpr ⟨cell, next, found, called, rfl⟩
      refine closed_of_call closed (fun other listed child given => ?_) done
      obtain rfl := List.mem_singleton.mp listed
      exact knows call List.mem_cons_self child (Cell.node_of_effect comes ▸ given)

end Store

end Assay
