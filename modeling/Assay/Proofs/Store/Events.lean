import Assay.Definition.Compile
import Assay.Proofs.Outcome
import Assay.Proofs.Schema.Containers
import Assay.Proofs.Store.Cells
import Assay.Proofs.Store.Trees

/-! What happens to a store: nodes are made and compiled, and called with whatever values. A node
only changes where it is called itself and the call comes to something. All but one of the calls
that fail come to nothing; a declaration that gets as far as its flag leaves the member declared.
-/

namespace Assay

-----------------------------------------------------------------------------------------
-- Calls and events
-----------------------------------------------------------------------------------------

/-- What a cell becomes by a call that returns. -/
def Cell.called (formats : Registries) (cell : Cell) (call : NodeCall)
    : Except Failure Cell :=
  (Store.changeCell formats call).made cell

/-- What a call comes to that breaks off at the flag of a declaration: the declaration of a member
that is not required. -/
def NodeCall.unflagged?
    : NodeCall → Option NodeCall
  | .addProperty name schema _ => some (.addProperty name schema (.bool false))
  | _ => none

/-- A declaration breaks off at its flag, which fails when it is asked for its truth. It comes to
the declaration of a member that is not required. -/
inductive NodeCall.BreaksOff : NodeCall → NodeCall → Failure → Prop
  | flag {name schema required fault} (untold : required.truth = .error fault)
    : BreaksOff (.addProperty name schema required) (.addProperty name schema (.bool false))
        (.stopped fault)

theorem NodeCall.BreaksOff.unflagged {call other : NodeCall} {failure : Failure}
    (breaks : call.BreaksOff other failure)
    : call.unflagged? = some other := by
  cases breaks with
  | flag => rfl

/-- What a call on a cell comes to: itself if it returns, the declaration of a member that is not
required if it breaks off behind that, and nothing otherwise. -/
def Cell.effect? (formats : Registries) (cell : Cell) (call : NodeCall)
    : Option NodeCall :=
  if (cell.called formats call).toOption.isSome then some call
  else call.unflagged?.filter fun other => (cell.called formats other).toOption.isSome

/-- What can happen to a store, with the formats that are registered then: a node is made, a
definition is compiled, or a node is called. -/
inductive Event where
  | leaf (formats : Registries) (registry : RegistryId) (arguments : Store.Arguments)
  | array (arguments : Store.Arguments)
  | object (arguments : Store.Arguments)
  | compiled (setting : Definition.Setting) (definition : Value)
  | called (formats : Registries) (id : NodeId) (call : NodeCall)

namespace Store

/-- What a store becomes by a call on a node that returns. -/
def call (formats : Registries) (store : Store) (id : NodeId) (call : NodeCall)
    : Except Failure Store :=
  (change formats id call).made store

/-- The store after an event. A node that cannot be made is in no store; a call that fails leaves
what it has written. -/
def after (store : Store)
    : Event → Store
  | .leaf formats registry arguments =>
      match addLeaf formats registry arguments store with
      | .ok added => added.2
      | .error _ => store
  | .array arguments =>
      match addArray arguments store with
      | .ok added => added.2
      | .error _ => store
  | .object arguments =>
      match addObject arguments store with
      | .ok added => added.2
      | .error _ => store
  | .compiled setting definition =>
      match (Definition.compile setting definition).outcome with
      | .ok schema => (store.addTree schema).2
      | .error _ => store
  | .called formats id call => (change formats id call).left store

/-- The store after several events. -/
def afterAll (store : Store) (events : List Event)
    : Store :=
  events.foldl after store

/-- The call that a node takes in an event: what the one on it comes to. -/
def taken? (store : Store) (id : NodeId)
    : Event → Option NodeCall
  | .called formats other call =>
      if other = id then (store.get? id).bind (·.effect? formats call) else none
  | _ => none

/-- The calls that a node takes in several events, in order. -/
def taken (id : NodeId)
    : Store → List Event → List NodeCall
  | _, [] => []
  | store, event :: rest => (store.taken? id event).toList ++ taken id (store.after event) rest

@[simp] theorem afterAll_cons (store : Store) (event : Event) (rest : List Event)
    : store.afterAll (event :: rest) = (store.after event).afterAll rest := rfl

-----------------------------------------------------------------------------------------
-- New nodes
-----------------------------------------------------------------------------------------

variable {store before between later : Store} {id : NodeId} {cell : Cell}

/-- A store has a node. -/
def Has (store : Store) (id : NodeId)
    : Prop :=
  ∃ cell, store.get? id = some cell

theorem has_iff_lt
    : store.Has id ↔ id < store.cells.size := by
  simp only [Has, get?, Array.getElem?_eq_some_iff]
  constructor
  · rintro ⟨cell, bound, -⟩
    exact bound
  · exact fun bound => ⟨_, bound, rfl⟩

/-- A store has all nodes of another one, as they are there. -/
def Extends (before later : Store)
    : Prop :=
  ∀ id cell, before.get? id = some cell → later.get? id = some cell

theorem Extends.refl (store : Store)
    : store.Extends store :=
  fun _ _ found => found

theorem Extends.trans (first : before.Extends between) (second : between.Extends later)
    : before.Extends later :=
  fun id cell found => second id cell (first id cell found)

theorem extends_add (store : Store) (cell : Cell)
    : store.Extends (store.add cell).2 := by
  intro id other found
  rw [get?_add_of_lt store cell (has_iff_lt.mp ⟨other, found⟩), found]

/-- The nodes of a tree are put behind those that are there. -/
theorem extends_addTree (schema : Schema) (store : Store)
    : store.Extends (addTree schema store).2 := by
  refine keeps_addTree (fun later node cell _ _ before => ?_) (.refl store)
  exact before.trans (extends_add later cell)

-----------------------------------------------------------------------------------------
-- Changed nodes
-----------------------------------------------------------------------------------------

/-- A call on a node that is there is one on its cell. -/
theorem change_of_found {formats : Registries} {call : NodeCall}
    (found : store.get? id = some cell)
    : change formats id call store = (changeCell formats call).within (store.put id) cell := by
  simp only [change, found]

theorem call_of_found {formats : Registries} {call : NodeCall}
    (found : store.get? id = some cell)
    : store.call formats id call = do return store.put id (← cell.called formats call) :=
  Change.made_of_within (change_of_found found)

theorem call_eq_ok_iff {formats : Registries} {call : NodeCall}
    : store.call formats id call = .ok later
      ↔ ∃ cell next,
          store.get? id = some cell
          ∧ cell.called formats call = .ok next
          ∧ later = store.put id next := by
  cases found : store.get? id with
  | none => simp [Store.call, Change.made, change, found]
  | some cell =>
      simp only [call_of_found found, bind_pure_eq_ok_iff, Option.some.injEq, eq_comm (a := later)]
      simp

/-- A node that is called becomes what the call leaves of its cell. -/
theorem after_called {formats : Registries} {call : NodeCall} (found : store.get? id = some cell)
    : store.after (.called formats id call)
      = store.put id ((changeCell formats call).left cell) :=
  Change.left_of_within (change_of_found found)

/-- A call of what is not there changes nothing. -/
theorem after_called_of_missing {formats : Registries} {call : NodeCall}
    (missing : store.get? id = none)
    : store.after (.called formats id call) = store := by
  simp [Store.after, Change.left, change, missing]

theorem put_self (found : store.get? id = some cell)
    : store.put id cell = store := by
  obtain ⟨bound, rfl⟩ := Array.getElem?_eq_some_iff.mp found
  rw [put, Array.setIfInBounds_def, dif_pos bound, Array.set_getElem_self]

-----------------------------------------------------------------------------------------
-- What calls come to
-----------------------------------------------------------------------------------------

/-- What the assignment of an attribute to a cell is: a refusal of one that can only be read, a call
of a setter, or nothing, where the cell has no such attribute. -/
inductive Assigns (formats : Registries)
    : Cell → String → Value → EStateM.Result Failure Cell Unit → Prop
  | locked {cell name value failure} : Assigns formats cell name value (.error failure cell)
  | field {registry leaf name field value} (named : LeafField.ofName? name = some field)
    : Assigns formats (.leaf registry leaf) name value
        ((Leaf.set (formats registry) field value).within (.leaf registry) leaf)
  | noField {registry leaf name value} (unnamed : LeafField.ofName? name = none)
    : Assigns formats (.leaf registry leaf) name value (.ok () (.leaf registry leaf))
  | items {node value}
    : Assigns formats (.array node) "items" value
        ((ArrayNode.setItems (slot value)).within .array node)
  | minItems {node value}
    : Assigns formats (.array node) "min_items" value
        ((ArrayNode.setMinItems value).within .array node)
  | maxItems {node value}
    : Assigns formats (.array node) "max_items" value
        ((ArrayNode.setMaxItems value).within .array node)
  | noPart {node name value} (notItems : name ≠ "items") (notMinItems : name ≠ "min_items")
    (notMaxItems : name ≠ "max_items")
    : Assigns formats (.array node) name value (.ok () (.array node))
  | required {node value}
    : Assigns formats (.object node) "required" value
        ((ObjectNode.setRequired value).within .object node)
  | additional {node value}
    : Assigns formats (.object node) "additional_properties" value
        ((ObjectNode.setAdditional (slot value)).within .object node)
  | noMembers {node name value} (notRequired : name ≠ "required")
    (notAdditional : name ≠ "additional_properties")
    : Assigns formats (.object node) name value (.ok () (.object node))

theorem assigns_assignCell (formats : Registries) (cell : Cell) (name : String) (value : Value)
    : Assigns formats cell name value (assignCell formats name value cell) := by
  unfold assignCell
  split
  · exact .locked
  · cases cell with
    | leaf registry leaf =>
        dsimp only
        split
        · rename_i field named
          exact .field named
        · rename_i unnamed
          exact .noField unnamed
    | array node =>
        dsimp only
        split_ifs with items minItems maxItems
        · exact items ▸ .items
        · exact minItems ▸ .minItems
        · exact maxItems ▸ .maxItems
        · exact .noPart items minItems maxItems
    | object node =>
        dsimp only
        split_ifs with required additional
        · exact required ▸ .required
        · exact additional ▸ .additional
        · exact .noMembers required additional

/-- An assignment that fails has written nothing, whichever setter it goes through. -/
theorem atomicAt_assignCell {formats : Registries} {name : String} {value : Value}
    : (assignCell formats name value).AtomicAt cell := by
  have assigns := assigns_assignCell formats cell name value
  generalize same : assignCell formats name value cell = result at assigns
  cases assigns with
  | locked => exact Change.atomicAt_of_error same
  | noField | noPart | noMembers => exact Change.atomicAt_of_ok same
  | field | items | minItems | maxItems | required =>
      exact Change.atomicAt_of_within same rfl (Change.atomicAt_write _ _)
  | additional => exact Change.atomicAt_of_within same rfl ObjectNode.atomicAt_setAdditional

/-- A mutator of an object node is one of its cell. -/
theorem called_addProperty {formats : Registries} {node : ObjectNode NodeId}
    {name schema required : Value}
    : (Cell.object node).called formats (.addProperty name schema required)
      = do return .object (← (ObjectNode.addProperty name (slot schema) required).made node) :=
  @Change.made_of_within _ _ _ (changeCell formats (.addProperty name schema required)) _ _ _ _ rfl

theorem called_addPattern {formats : Registries} {node : ObjectNode NodeId} {pattern schema : Value}
    : (Cell.object node).called formats (.addPattern pattern schema)
      = do return .object (← (ObjectNode.addPattern pattern (slot schema)).made node) :=
  @Change.made_of_within _ _ _ (changeCell formats (.addPattern pattern schema)) _ _ _ _ rfl

theorem left_addProperty {formats : Registries} {node : ObjectNode NodeId}
    {name schema required : Value}
    : (changeCell formats (.addProperty name schema required)).left (.object node)
      = .object ((ObjectNode.addProperty name (slot schema) required).left node) :=
  @Change.left_of_within _ _ _ (changeCell formats (.addProperty name schema required)) _ _ _ _ rfl

/-- What a failing call leaves of a cell: the cell as it was, where the call could not be made
without its flag either, and otherwise what it makes without one. -/
theorem left_of_called_failed {formats : Registries} {call : NodeCall} {failure : Failure}
    (failed : cell.called formats call = .error failure)
    : ((∀ other,
          call.unflagged? = some other → ∃ failure, cell.called formats other = .error failure)
        ∧ (changeCell formats call).left cell = cell)
      ∨ ∃ other,
          call.BreaksOff other failure
          ∧ cell.called formats other = .ok ((changeCell formats call).left cell) := by
  cases call with
  | assign name value => exact Or.inl ⟨nofun, atomicAt_assignCell failure failed⟩
  | addPattern pattern schema =>
      refine Or.inl ⟨nofun, ?_⟩
      cases cell with
      | object node =>
          have atomic : (changeCell formats (.addPattern pattern schema)).AtomicAt (.object node) :=
            Change.atomicAt_of_within rfl rfl (Change.atomicAt_write _ node)
          exact atomic failure failed
      | leaf | array => rfl
  | addProperty name schema required =>
      cases cell with
      | leaf | array => exact Or.inl ⟨fun other same => by cases same; exact ⟨_, rfl⟩, rfl⟩
      | object node =>
          rw [called_addProperty, bind_pure_eq_error_iff] at failed
          rw [left_addProperty]
          rcases ObjectNode.left_of_addProperty_failed failed
            with ⟨⟨failure, refused⟩, kept⟩ | ⟨⟨fault, untold, rfl⟩, declared⟩
          · refine Or.inl ⟨fun other same => ⟨failure, ?_⟩, congrArg Cell.object kept⟩
            cases same
            rw [called_addProperty, refused, error_bind]
          · refine Or.inr ⟨_, .flag untold, ?_⟩
            rw [called_addProperty, declared]
            rfl

/-- What a call comes to makes what the call leaves. -/
theorem called_of_effect {formats : Registries} {call effect : NodeCall}
    (comes : cell.effect? formats call = some effect)
    : cell.called formats effect = .ok ((changeCell formats call).left cell) := by
  unfold Cell.effect? at comes
  cases done : cell.called formats call with
  | ok next =>
      obtain rfl : call = effect := by simpa [done, Except.toOption] using comes
      rw [done, Change.left_of_made done]
  | error failure =>
      simp only [done, Except.toOption, Option.isSome_none, Bool.false_eq_true, if_false,
        Option.filter_eq_some_iff] at comes
      obtain ⟨unflagged, returned⟩ := comes
      rcases left_of_called_failed done with ⟨none, -⟩ | ⟨other, breaks, made⟩
      · obtain ⟨failure, failed⟩ := none effect unflagged
        simp [failed] at returned
      · obtain rfl := Option.some.inj (breaks.unflagged.symm.trans unflagged)
        exact made

/-- A call that comes to nothing leaves a cell as it is. -/
theorem left_of_no_effect {formats : Registries} {call : NodeCall}
    (none : cell.effect? formats call = none)
    : (changeCell formats call).left cell = cell := by
  unfold Cell.effect? at none
  cases done : cell.called formats call with
  | ok next => simp [done, Except.toOption] at none
  | error failure =>
      rcases left_of_called_failed done with ⟨-, kept⟩ | ⟨other, breaks, made⟩
      · exact kept
      · simp [done, breaks.unflagged, made, Except.toOption] at none

/-- A call that fails leaves a store as it was, unless it breaks off at the flag of a declaration.
-/
theorem after_of_call_failed {formats : Registries} {call : NodeCall} {failure : Failure}
    (failed : store.call formats id call = .error failure)
    : store.after (.called formats id call) = store
      ∨ ∃ other,
          call.BreaksOff other failure
          ∧ store.call formats id other = .ok (store.after (.called formats id call)) := by
  cases found : store.get? id with
  | none => exact Or.inl (after_called_of_missing found)
  | some cell =>
      rw [call_of_found found, bind_pure_eq_error_iff] at failed
      rw [after_called found]
      rcases left_of_called_failed failed with ⟨-, kept⟩ | ⟨other, breaks, made⟩
      · rw [kept, put_self found]
        exact Or.inl rfl
      · refine Or.inr ⟨other, breaks, ?_⟩
        rw [call_of_found found, made]
        rfl

/-- A call that is taken puts another cell in the place of the node. -/
theorem exists_put_of_call {formats : Registries} {call : NodeCall}
    (done : store.call formats id call = .ok later)
    : ∃ changed, store.Has id ∧ later = store.put id changed := by
  obtain ⟨cell, next, found, -, same⟩ := call_eq_ok_iff.mp done
  exact ⟨next, ⟨cell, found⟩, same⟩

/-- What a store becomes in an event: it stays as it is, a new node or the nodes of a new tree come
behind those that are there, or a node becomes what its call comes to. -/
inductive Becomes (store : Store) : Event → Store → Prop
  | same {event} : store.Becomes event store
  | leaf {formats registry arguments leaf} (built : leafOf (formats registry) arguments = .ok leaf)
    : store.Becomes (.leaf formats registry arguments) (store.add (.leaf registry leaf)).2
  | array {arguments node}
    (built : arrayOf (store.addTree Schema.anything).1 arguments = .ok node)
    : store.Becomes (.array arguments) ((store.addTree Schema.anything).2.add (.array node)).2
  | object {arguments node} (built : objectOf arguments = .ok node)
    : store.Becomes (.object arguments) (store.add (.object node)).2
  | compiled {setting definition schema}
    (built : (Definition.compile setting definition).outcome = .ok schema)
    : store.Becomes (.compiled setting definition) (store.addTree schema).2
  | called {formats id cell call effect next} (found : store.get? id = some cell)
    (comes : cell.effect? formats call = some effect)
    (called : cell.called formats effect = .ok next)
    : store.Becomes (.called formats id call) (store.put id next)

/-- Every event is one of these. -/
theorem becomes_after (store : Store) (event : Event)
    : store.Becomes event (store.after event) := by
  cases event with
  | leaf formats registry arguments =>
      rw [Store.after]
      split
      · rename_i made
        obtain ⟨leaf, built, rfl⟩ := bind_pure_eq_ok_iff.mp made
        exact .leaf built
      · exact .same
  | array arguments =>
      rw [Store.after]
      split
      · rename_i made
        obtain ⟨node, built, rfl⟩ := bind_pure_eq_ok_iff.mp made
        exact .array built
      · exact .same
  | object arguments =>
      rw [Store.after]
      split
      · rename_i made
        obtain ⟨node, built, rfl⟩ := bind_pure_eq_ok_iff.mp made
        exact .object built
      · exact .same
  | compiled setting definition =>
      rw [Store.after]
      split
      · rename_i built
        exact .compiled built
      · exact .same
  | called formats id call =>
      cases found : store.get? id with
      | none =>
          rw [after_called_of_missing found]
          exact .same
      | some cell =>
          rw [after_called found]
          cases comes : cell.effect? formats call with
          | none =>
              rw [left_of_no_effect comes, put_self found]
              exact .same
          | some effect => exact .called found comes (called_of_effect comes)

/-- Where an event does not take a call of a node, the node stays as it is. -/
theorem get?_after_of_not_taken {event : Event} (found : store.get? id = some cell)
    (untaken : store.taken? id event = none)
    : (store.after event).get? id = some cell := by
  have becomes := store.becomes_after event
  generalize store.after event = later at becomes ⊢
  cases becomes with
  | same => exact found
  | leaf | object => exact extends_add store _ id cell found
  | array =>
      exact (extends_addTree Schema.anything store).trans (extends_add _ _) id cell found
  | compiled => exact extends_addTree _ store id cell found
  | @called formats other changed call effect next there comes =>
      have apart : id ≠ other := by
        rintro rfl
        simp [taken?, there, comes] at untaken
      rw [get?_put_of_ne store next apart, found]

/-- The cells that come up in an event: those of nodes that are made, those that stand for the nodes
of a compiled tree, and what a node becomes by what a call comes to. -/
inductive Arises (store : Store) : Event → Cell → Prop
  | leaf {formats registry arguments leaf} (built : leafOf (formats registry) arguments = .ok leaf)
    : store.Arises (.leaf formats registry arguments) (.leaf registry leaf)
  | anything {arguments}
    : store.Arises (.array arguments) (.leaf defaultRegistry {})
  | array {arguments place node} (built : arrayOf place arguments = .ok node)
    : store.Arises (.array arguments) (.array node)
  | object {arguments node} (built : objectOf arguments = .ok node)
    : store.Arises (.object arguments) (.object node)
  | compiled {setting definition schema node cell}
    (built : (Definition.compile setting definition).outcome = .ok schema)
    (contained : schema.Contains node) (stands : cell.StandsFor node)
    : store.Arises (.compiled setting definition) cell
  | called {formats id cell call effect next} (found : store.get? id = some cell)
    (comes : cell.effect? formats call = some effect)
    (called : cell.called formats effect = .ok next)
    : store.Arises (.called formats id call) next

/-- What holds of every cell, and of those that come up in an event, holds of all cells then. -/
theorem every_after {holds : Cell → Prop} {event : Event} (every : store.Every holds)
    (arising : ∀ cell, store.Arises event cell → holds cell)
    : (store.after event).Every holds := by
  have becomes := store.becomes_after event
  generalize store.after event = later at becomes ⊢
  cases becomes with
  | same => exact every
  | leaf built => exact every_add every (arising _ (.leaf built))
  | array built =>
      exact every_add (every_add every (arising _ .anything)) (arising _ (.array built))
  | object built => exact every_add every (arising _ (.object built))
  | compiled built =>
      exact every_addTree every fun node cell contained stands =>
        arising cell (.compiled built contained stands)
  | called found comes called =>
      exact every_put every _ (arising _ (.called found comes called))

/-- A call of a node that an event takes leads to the store after it. -/
theorem call_of_taken {event : Event} {call : NodeCall}
    (takes : store.taken? id event = some call)
    : ∃ formats, store.call formats id call = .ok (store.after event) := by
  cases event with
  | called formats other made =>
      simp only [taken?, Option.ite_none_right_eq_some, Option.bind_eq_some_iff] at takes
      obtain ⟨rfl, cell, found, comes⟩ := takes
      refine ⟨formats, ?_⟩
      rw [call_of_found found, after_called found, called_of_effect comes]
      rfl
  | _ => cases takes

/-- A store keeps all nodes that it has. -/
theorem has_after (has : store.Has id) (event : Event)
    : (store.after event).Has id := by
  cases takes : store.taken? id event with
  | none =>
      obtain ⟨cell, found⟩ := has
      exact ⟨cell, get?_after_of_not_taken found takes⟩
  | some call =>
      obtain ⟨formats, done⟩ := call_of_taken takes
      obtain ⟨changed, -, same⟩ := exists_put_of_call done
      rw [same]
      exact ⟨changed, get?_put_self store changed (has_iff_lt.mp has)⟩

end Store

end Assay
