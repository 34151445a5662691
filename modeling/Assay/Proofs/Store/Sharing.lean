import Assay.Proofs.Store.Closed

/-! Nodes that are shared. In a closed store where no node holds itself, however far down, every
node has a tree; a call on a node changes the trees that the node is in and no others.
-/

namespace Assay

-----------------------------------------------------------------------------------------
-- Children replaced in every case
-----------------------------------------------------------------------------------------

namespace ObjectNode

variable {α β γ : Type} {f : α → Option β}

theorem exists_mapEntries? {entries : List (γ × α)}
    (each : ∀ entry ∈ entries, ∃ other, f entry.2 = some other)
    : ∃ mapped, mapEntries? f entries = some mapped := by
  induction entries with
  | nil => exact ⟨[], rfl⟩
  | cons entry rest ih =>
      obtain ⟨⟨other, here⟩, later⟩ := List.forall_mem_cons.mp each
      obtain ⟨mapped, found⟩ := ih later
      exact ⟨_, mapEntries?_cons_eq_some_iff.mpr ⟨other, mapped, here, found, rfl⟩⟩

/-- A node is replaced where each of its children is. -/
theorem exists_map? {node : ObjectNode α}
    (each : node.Every fun child => ∃ other, f child = some other)
    : ∃ mapped, node.map? f = some mapped := by
  obtain ⟨properties, declared⟩ := exists_mapEntries? each.properties
  obtain ⟨patterns, listed⟩ := exists_mapEntries? each.patterns
  obtain ⟨additional, said⟩ : ∃ additional, node.additional.map? f = some additional := by
    cases given : node.additional.schema? with
    | none =>
        exact ⟨⟨node.additional.policy, none⟩,
          Additional.map?_eq_some_iff.mpr ⟨rfl, Or.inl ⟨given, rfl⟩⟩⟩
    | some child =>
        obtain ⟨other, replaced⟩ := each.additional child given
        exact ⟨⟨node.additional.policy, some other⟩,
          Additional.map?_eq_some_iff.mpr ⟨rfl, Or.inr ⟨child, other, given, replaced, rfl⟩⟩⟩
  exact ⟨⟨properties, node.required, patterns, additional⟩,
    map?_eq_some_iff.mpr ⟨declared, rfl, listed, said⟩⟩

end ObjectNode

namespace Store

variable {store before after : Store} {id child : NodeId} {cell : Cell} {formats : Registries}
  {call : NodeCall}

/-- A cell has a tree where each of its children has. -/
theorem exists_cellTree? {below : NodeId → Option Schema}
    (each : ∀ child, cell.Holds child → ∃ tree, below child = some tree)
    : ∃ schema, cellTree? below cell = some schema := by
  cases cell with
  | leaf registry leaf => exact ⟨_, rfl⟩
  | array node =>
      obtain ⟨items, unfolds⟩ := each node.items .items
      exact ⟨_, cellTree?_array_eq_some_iff.mpr ⟨items, unfolds, rfl⟩⟩
  | object node =>
      have every : node.Every fun child => ∃ tree, below child = some tree := {
        properties := fun _ declared => each _ (.property declared)
        patterns := fun _ listed => each _ (.pattern listed)
        additional := fun _ given => each _ (.additional given)
      }
      obtain ⟨mapped, replaced⟩ := ObjectNode.exists_map? every
      exact ⟨.object mapped, Option.map_eq_some_iff.mpr ⟨mapped, replaced, rfl⟩⟩

/-- The tree of a cell depends on its children alone. -/
theorem cellTree?_congr {f g : NodeId → Option Schema}
    (same : ∀ child, cell.Holds child → f child = g child)
    : cellTree? f cell = cellTree? g cell := by
  refine Option.ext fun schema => ⟨fun found => ?_, fun found => ?_⟩
  · exact cellTree?_mono (fun child tree holds => (same child holds ▸ ·)) found
  · exact cellTree?_mono (fun child tree holds => (same child holds ▸ ·)) found

-----------------------------------------------------------------------------------------
-- Stores of trees
-----------------------------------------------------------------------------------------

/-- No node of a store holds itself, however far down. -/
def Acyclic (store : Store)
    : Prop :=
  ∀ id, ¬Relation.TransGen store.Holds id id

/-- A node is below another one that holds it, however far up. -/
def Below (store : Store) (lower upper : NodeId)
    : Prop :=
  Relation.TransGen store.Holds upper lower

/-- There are finitely many nodes, so going down ends where no node is below itself. -/
theorem wellFoundedOn_below (acyclic : store.Acyclic)
    : {id | store.Has id}.WellFoundedOn store.Below := by
  have order : IsStrictOrder NodeId store.Below := {
    irrefl := acyclic
    trans := fun _ _ _ first second => second.trans first
  }
  refine Set.Finite.wellFoundedOn ((Set.finite_lt_nat store.cells.size).subset ?_)
  exact fun id has => has_iff_lt.mp has

/-- A node of a closed store without cycles has a tree, by induction on what is below it. -/
theorem exists_tree (closed : store.Closed) (acyclic : store.Acyclic) (has : store.Has id)
    : ∃ tree, store.tree? id = some tree := by
  refine (wellFoundedOn_below acyclic).induction (P := fun id => ∃ tree, store.tree? id = some tree)
    has fun id has inner => ?_
  obtain ⟨cell, found⟩ := has
  have each : ∀ child, cell.Holds child → ∃ tree, store.tree? child = some tree := by
    intro child holds
    have held : store.Holds id child := ⟨cell, found, holds⟩
    exact inner child (closed id child held) (.single held)
  obtain ⟨tree, below⟩ := exists_cellTree? each
  exact ⟨tree, tree?_of_unfoldTo (unfoldTo_succ_eq_some_iff.mpr ⟨cell, found, below⟩)⟩

theorem has_of_unfoldTo {depth : Nat} {schema : Schema}
    (unfolds : store.unfoldTo depth id = some schema)
    : store.Has id := by
  cases depth with
  | zero => nomatch unfolds
  | succ depth =>
      obtain ⟨cell, found, -⟩ := unfoldTo_succ_eq_some_iff.mp unfolds
      exact ⟨cell, found⟩

/-- The closed stores without cycles are those whose nodes all have trees. -/
theorem closed_acyclic_iff
    : store.Closed ∧ store.Acyclic
      ↔ ∀ id, store.Has id → ∃ tree, store.tree? id = some tree := by
  constructor
  · exact fun ⟨closed, acyclic⟩ id => exists_tree closed acyclic
  · intro trees
    constructor
    · intro id child holds
      obtain ⟨cell, found, held⟩ := holds
      obtain ⟨tree, unfolds⟩ := trees id ⟨cell, found⟩
      have deeper := unfoldTo_mono (Nat.le_succ _) unfolds
      obtain ⟨below, unfolds⟩ := unfolds_of_holds deeper ⟨cell, found, held⟩
      exact has_of_unfoldTo unfolds
    · intro id cyclic
      obtain ⟨child, ⟨cell, found, -⟩, -⟩ := Relation.TransGen.head'_iff.mp cyclic
      obtain ⟨tree, unfolds⟩ := trees id ⟨cell, found⟩
      nomatch (unfoldTo_eq_none_of_cyclic cyclic _).symm.trans unfolds

-----------------------------------------------------------------------------------------
-- What a call leaves alone
-----------------------------------------------------------------------------------------

/-- Where two stores have the same cells from a node on, they have the same tree there, by induction
on the depth. -/
theorem unfoldTo_congr
    (same
      : ∀ other,
          Relation.ReflTransGen before.Holds id other → after.get? other = before.get? other)
    (depth : Nat)
    : after.unfoldTo depth id = before.unfoldTo depth id := by
  induction depth generalizing id with
  | zero => rfl
  | succ depth ih =>
      refine Option.ext fun schema => ?_
      rw [unfoldTo_succ_eq_some_iff, unfoldTo_succ_eq_some_iff, same id .refl]
      refine exists_congr fun cell => and_congr_right fun found => ?_
      rw [cellTree?_congr fun child holds => ih fun other path =>
        same other (.head ⟨cell, found, holds⟩ path)]

/-- Nodes from which a called node cannot be reached have the same trees afterwards. -/
theorem tree?_after_called {other : NodeId} (apart : ¬Relation.ReflTransGen store.Holds other id)
    : (store.after (.called formats id call)).tree? other = store.tree? other := by
  cases found : store.get? id with
  | none => rw [after_called_of_missing found]
  | some cell =>
      rw [after_called found, tree?, tree?, size_put]
      refine unfoldTo_congr (fun below path => get?_put_of_ne store _ ?_) _
      rintro rfl
      exact apart path

/-- A call on a node of a closed store without cycles changes no tree but those that the node is in.
Nodes from which it cannot be reached keep their trees, hence what their state shows, their written
form, and what they return for documents. Before the call, and afterwards if there is no cycle then,
every node has a tree and returns for each document what its tree returns. A call that fails leaves
the store as it is, unless it breaks off at the flag of a declaration, which leaves the member
declared. -/
theorem call_changes_containing_trees {store : Store} {formats : Registries} {id : NodeId}
    {call : NodeCall} (closed : store.Closed) (acyclic : store.Acyclic)
    (knows : store.Knows [call]) (still : (store.after (.called formats id call)).Acyclic)
    : (∀ other,
        store.Has other
        → ¬Relation.ReflTransGen store.Holds other id
        → (store.after (.called formats id call)).tree? other = store.tree? other
          ∧ (store.after (.called formats id call)).literal other = store.literal other
          ∧ ∀ registries document,
              (store.after (.called formats id call)).check registries other document
              = store.check registries other document)
      ∧ (∀ other,
        store.Has other
        → (∃ tree,
            store.tree? other = some tree
            ∧ ∀ registries document,
                store.check registries other document = tree.check registries document)
          ∧ ∃ tree,
            (store.after (.called formats id call)).tree? other = some tree
            ∧ ∀ registries document,
                (store.after (.called formats id call)).check registries other document
                = tree.check registries document)
      ∧ ∀ failure,
        store.call formats id call = .error failure
        → store.after (.called formats id call) = store
          ∨ ∃ declaration,
              call.BreaksOff declaration failure
              ∧ store.call formats id declaration
                = .ok (store.after (.called formats id call)) := by
  have closed' : (store.after (.called formats id call)).Closed := closed_after closed knows
  refine ⟨fun other has apart => ?_, fun other has => ⟨?_, ?_⟩, fun failure failed => ?_⟩
  · have tree : (store.after (.called formats id call)).tree? other = store.tree? other :=
      tree?_after_called apart
    obtain ⟨schema, unfolds⟩ := exists_tree closed acyclic has
    refine ⟨tree, by rw [literal, literal, tree], fun registries document => ?_⟩
    rw [check_eq_of_unfoldTo (tree.trans unfolds), check_eq_of_unfoldTo unfolds]
  · obtain ⟨schema, unfolds⟩ := exists_tree closed acyclic has
    exact ⟨schema, unfolds, fun _ _ => by rw [check_eq_of_unfoldTo unfolds]⟩
  · obtain ⟨schema, unfolds⟩ := exists_tree closed' still (has_after has _)
    exact ⟨schema, unfolds, fun _ _ => by rw [check_eq_of_unfoldTo unfolds]⟩
  · exact after_of_call_failed failed

/-- A leaf of texts in two places, one of them inside the other: a member of an object, and the
items of an array that is another member. Beside it, an array of anything. -/
def sharedLeaf : Store :=
  ⟨#[.leaf 0 { type := .string }, .array { items := 0 },
    .object { properties := [(.text "name", 0), (.text "others", 1)] }, .leaf 0 {},
    .array { items := 3 }]⟩

/-- A bound on the length of the leaf shows in both places in the object, but not in the array of
anything. -/
theorem bound_of_shared_leaf_shows
    : (∃ tree,
        (sharedLeaf.after
            (.called (fun _ => .builtIn) 0 (.assign "min_length" (.int 3)))).tree? 2 = some tree
        ∧ ((sharedLeaf.check (fun _ => .builtIn) 2
              (.object [("name", .string "a"), ("others", .list [.string "b"])])).toOption
            = some [])
        ∧ ((tree.check (fun _ => .builtIn)
              (.object [("name", .string "a"), ("others", .list [.string "b"])])).toOption.map
              (·.map (·.location))
            = some [".name", ".others[0]"]))
      ∧ ∀ document,
          (sharedLeaf.after
              (.called (fun _ => .builtIn) 0 (.assign "min_length" (.int 3)))).check
            (fun _ => .builtIn) 4 document
          = sharedLeaf.check (fun _ => .builtIn) 4 document := by
  have trees (store : Store) (size : store.cells.size = 5)
      (each : ∀ id : Fin 5, (store.tree? id).isSome)
      : store.Closed ∧ store.Acyclic :=
    closed_acyclic_iff.mpr fun id has =>
      Option.isSome_iff_exists.mp (each ⟨id, size ▸ has_iff_lt.mp has⟩)
  obtain ⟨closed, acyclic⟩ := trees sharedLeaf rfl (by decide)
  have still := (trees
    (sharedLeaf.after (.called (fun _ => .builtIn) 0 (.assign "min_length" (.int 3)))) rfl
    (by decide)).2
  have apart : ¬Relation.ReflTransGen sharedLeaf.Holds 4 0 := by
    intro path
    rcases Relation.ReflTransGen.cases_head path with same | ⟨child, ⟨cell, found, holds⟩, rest⟩
    · nomatch same
    · obtain rfl := Option.some.inj found
      cases holds with
      | items =>
          rcases Relation.ReflTransGen.cases_head rest with same | ⟨_, ⟨cell, found, holds⟩, -⟩
          · nomatch same
          · obtain rfl := Option.some.inj found
            nomatch holds
  have knows : sharedLeaf.Knows [.assign "min_length" (.int 3)] := by
    intro call listed child given
    obtain rfl := List.mem_singleton.mp listed
    nomatch given
  obtain ⟨kept, unfolded, -⟩ := call_changes_containing_trees closed acyclic knows still
  obtain ⟨-, tree, found, -⟩ := unfolded 2 ⟨_, rfl⟩
  refine ⟨⟨tree, found, rfl, ?_⟩, (kept 4 ⟨_, rfl⟩ apart).2.2 (fun _ => .builtIn)⟩
  obtain rfl := Option.some.inj found
  rfl

/-- A declaration that fails at its flag shows in the array whose items the object describes: what
was no violation there is one afterwards. -/
theorem failed_declaration_shows
    : Store.call (fun _ => .builtIn)
          ⟨#[.leaf 0 { type := .string }, .object {}, .array { items := 1 }]⟩
          1 (.addProperty (.string "a") (.foreign (.node 0 "" "")) releasedView)
        = .error
            (.stopped (.raised .value "operation forbidden on released memoryview object"))
      ∧ (Store.check ⟨#[.leaf 0 { type := .string }, .object {}, .array { items := 1 }]⟩
            (fun _ => .builtIn) 2 (.list [.object [("a", .null)]])).toOption
        = some []
      ∧ ((Store.after ⟨#[.leaf 0 { type := .string }, .object {}, .array { items := 1 }]⟩
              (.called (fun _ => .builtIn) 1
                (.addProperty (.string "a") (.foreign (.node 0 "" "")) releasedView))).check
            (fun _ => .builtIn) 2 (.list [.object [("a", .null)]])).toOption.map
            (·.map (·.location))
        = some ["[0].a"] :=
  ⟨rfl, rfl, rfl⟩

end Store

end Assay
