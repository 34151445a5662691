import Assay.Proofs.Store.Histories

/-! Arrays and objects account for all calls that they have taken, those that have made them first.
Whatever else happens to the store in between, and whatever calls fail, makes no difference.
-/

namespace Assay

-----------------------------------------------------------------------------------------
-- New containers
-----------------------------------------------------------------------------------------

namespace Store

/-- The entries of an argument that holds some. -/
def argumentEntries (arguments : Arguments) (name : String)
    : List (String × Value) :=
  (entries (argument arguments name .null)).toOption.getD []

/-- The calls that a new object takes from its arguments. -/
def objectCalls (arguments : Arguments)
    : List NodeCall :=
  (argumentEntries arguments "properties").map
      (fun entry => .addProperty (.string entry.1) entry.2 (.bool false))
    ++ [.assign "required" (argument arguments "required" (.array .tuple []))]
    ++ (argumentEntries arguments "pattern_properties").map
      (fun entry => .addPattern (.string entry.1) entry.2)
    ++ [.assign "additional_properties" (argument arguments "additional_properties" (.bool true))]

/-- The calls that a new array takes from its arguments. -/
def arrayCalls (arguments : Arguments)
    : List NodeCall :=
  let items := argument arguments "items" .null
  (if items.isNull then [] else [.assign "items" items])
    ++ [.assign "min_items" (argument arguments "min_items" (.int 0)),
      .assign "max_items" (argument arguments "max_items" (.int 0))]

variable {calls : List NodeCall} {arguments : Arguments}

theorem accounts_of_declareAll {node next : ObjectNode NodeId} {entries : List (String × Value)}
    (accounts : node.Accounts calls) (declared : declareAll node entries = .ok next)
    : next.Accounts
        (calls
          ++ entries.map fun entry => .addProperty (.string entry.1) entry.2 (.bool false)) := by
  induction entries generalizing node calls with
  | nil =>
      obtain rfl := Except.ok.inj declared
      simpa using accounts
  | cons entry rest ih =>
      obtain ⟨name, schema⟩ := entry
      simp only [declareAll, bind_eq_ok_iff] at declared
      obtain ⟨between, added, declared⟩ := declared
      obtain ⟨label, child, flag, named, fresh, given, told, rfl⟩ :=
        ObjectNode.addProperty_eq_ok_iff.mp added
      have here := accounts.takes (.property named fresh (slot_eq_proper_iff.mp given) told)
      simpa using ih here declared

theorem accounts_of_addAllPatterns {node next : ObjectNode NodeId}
    {entries : List (String × Value)} (accounts : node.Accounts calls)
    (listed : addAllPatterns node entries = .ok next)
    : next.Accounts
        (calls ++ entries.map fun entry => .addPattern (.string entry.1) entry.2) := by
  induction entries generalizing node calls with
  | nil =>
      obtain rfl := Except.ok.inj listed
      simpa using accounts
  | cons entry rest ih =>
      obtain ⟨source, schema⟩ := entry
      simp only [addAllPatterns, bind_eq_ok_iff] at listed
      obtain ⟨between, added, listed⟩ := listed
      obtain ⟨slot, child, read, given, rfl⟩ := ObjectNode.addPattern_eq_ok_iff.mp added
      have here := accounts.takes (.pattern read (slot_eq_proper_iff.mp given))
      simpa using ih here listed

/-- A new object accounts for what its arguments ask for. -/
theorem objectOf_accounts {node : ObjectNode NodeId} (built : objectOf arguments = .ok node)
    : node.Accounts (objectCalls arguments) := by
  simp only [objectOf, bind_eq_ok_iff] at built
  obtain ⟨properties, listed, declaring, declared, requiring, required, patterns, listed', matching,
    matched, additional⟩ := built
  have accounts := accounts_of_declareAll ObjectNode.accounts_initial declared
  obtain ⟨-, names, words, elements, named, rfl⟩ := ObjectNode.setRequired_eq_ok_iff.mp required
  replace accounts := accounts_of_addAllPatterns (accounts.takes (.required elements named)) matched
  obtain ⟨kept, said, rfl⟩ := ObjectNode.setAdditional_eq_ok_iff.mp additional
  replace accounts := accounts.takes (.additional said)
  simpa [objectCalls, argumentEntries, listed, listed', Except.toOption] using accounts

/-- Both sizes are assigned to a new array behind its items. -/
theorem accounts_of_sizes {anything : NodeId} {node next : ArrayNode NodeId}
    {least greatest : Value}
    (accounts : node.Accounts anything calls)
    (sized
      : (do
          let node ← (ArrayNode.setMinItems least).made node
          (ArrayNode.setMaxItems greatest).made node)
        = .ok next)
    : next.Accounts anything
        (calls ++ [.assign "min_items" least, .assign "max_items" greatest]) := by
  obtain ⟨between, first, second⟩ := bind_eq_ok_iff.mp sized
  obtain ⟨size, read, rfl⟩ := ArrayNode.setMinItems_eq_ok_iff.mp first
  obtain ⟨limit, read', rfl⟩ := ArrayNode.setMaxItems_eq_ok_iff.mp second
  rw [ArrayNode.size_eq_ok_iff.mp read, ArrayNode.size_eq_ok_iff.mp read']
  have here := accounts.takes (@ArrayNode.Takes.minItems node size)
  simpa using here.takes (@ArrayNode.Takes.maxItems _ limit)

/-- A new array accounts for what its arguments ask for. -/
theorem arrayOf_accounts {anything : NodeId} {node : ArrayNode NodeId}
    (built : arrayOf anything arguments = .ok node)
    : node.Accounts anything (arrayCalls arguments) := by
  unfold arrayOf at built
  unfold arrayCalls
  by_cases missing : (argument arguments "items" .null).isNull
  · simp only [missing, if_true] at built ⊢
    exact accounts_of_sizes ArrayNode.accounts_initial built
  · simp only [missing] at built ⊢
    obtain ⟨between, given, sized⟩ := bind_eq_ok_iff.mp built
    obtain ⟨child, slotted, rfl⟩ := ArrayNode.setItems_eq_ok_iff.mp given
    have here := ArrayNode.accounts_initial.takes
      (@ArrayNode.Takes.items { items := anything } _ child (slot_eq_proper_iff.mp slotted))
    exact accounts_of_sizes here sized

-----------------------------------------------------------------------------------------
-- Runs
-----------------------------------------------------------------------------------------

variable {store : Store} {id : NodeId}

/-- What holds of a node and the calls that it has taken, and of one more call that it takes, holds
of it after all events, by induction on the events. -/
theorem holds_afterAll {holds : List NodeCall → Cell → Prop}
    (keeps
      : ∀ {store later : Store} {formats call calls cell},
          holds calls cell
          → store.get? id = some cell
          → store.call formats id call = .ok later
          → ∃ next, holds (calls ++ [call]) next ∧ later = store.put id next)
    {events : List Event} {cell : Cell} (found : store.get? id = some cell)
    (here : holds calls cell)
    : ∃ next,
        (store.afterAll events).get? id = some next
        ∧ holds (calls ++ taken id store events) next := by
  induction events generalizing store calls cell with
  | nil => exact ⟨cell, found, by simpa [taken] using here⟩
  | cons event rest ih =>
      rw [afterAll_cons, taken]
      cases takes : store.taken? id event with
      | none => simpa using ih (get?_after_of_not_taken found takes) here
      | some call =>
          obtain ⟨formats, done⟩ := call_of_taken takes
          obtain ⟨next, kept, same⟩ := keeps here found done
          have found : (store.after event).get? id = some next := by
            rw [same, get?_put_self store next (has_iff_lt.mp ⟨cell, found⟩)]
          simpa using ih found kept

/-- An object node accounts for what it takes in several events. -/
theorem object_accounts_afterAll {node : ObjectNode NodeId} {events : List Event}
    (found : store.get? id = some (.object node)) (accounts : node.Accounts calls)
    : ∃ next : ObjectNode NodeId,
        (store.afterAll events).get? id = some (.object next)
        ∧ next.Accounts (calls ++ taken id store events) := by
  have kept := @holds_afterAll _ store id
    (fun calls cell => ∃ node, cell = .object node ∧ node.Accounts calls) ?_ events _ found
    ⟨node, rfl, accounts⟩
  · obtain ⟨_, found, next, rfl, accounts⟩ := kept
    exact ⟨next, found, accounts⟩
  · rintro store later formats call calls _ ⟨node, rfl, accounts⟩ found done
    obtain ⟨next, takes, same⟩ := takes_of_call_object found done
    exact ⟨_, ⟨next, rfl, accounts.takes takes⟩, same⟩

/-- An array node accounts for what it takes in several events. -/
theorem array_accounts_afterAll {anything : NodeId} {node : ArrayNode NodeId} {events : List Event}
    (found : store.get? id = some (.array node)) (accounts : node.Accounts anything calls)
    : ∃ next : ArrayNode NodeId,
        (store.afterAll events).get? id = some (.array next)
        ∧ next.Accounts anything (calls ++ taken id store events) := by
  have kept := @holds_afterAll _ store id
    (fun calls cell => ∃ node, cell = .array node ∧ node.Accounts anything calls) ?_ events _ found
    ⟨node, rfl, accounts⟩
  · obtain ⟨_, found, next, rfl, accounts⟩ := kept
    exact ⟨next, found, accounts⟩
  · rintro store later formats call calls _ ⟨node, rfl, accounts⟩ found done
    obtain ⟨next, takes, same⟩ := takes_of_call_array found done
    exact ⟨_, ⟨next, rfl, accounts.takes takes⟩, same⟩

-----------------------------------------------------------------------------------------
-- Nodes that are there
-----------------------------------------------------------------------------------------

/-- The calls that an event makes: the one on a node, or those that a new container takes. -/
def callsOf
    : Event → List NodeCall
  | .array arguments => arrayCalls arguments
  | .object arguments => objectCalls arguments
  | .called _ _ call => [call]
  | .leaf .. | .compiled .. => []

/-- A store has the nodes that some calls are given. -/
def Knows (store : Store) (calls : List NodeCall)
    : Prop :=
  ∀ call ∈ calls, ∀ child, call.node? = some child → store.Has child

/-- In several events, calls are only given nodes that the store has by then. -/
def Informed
    : Store → List Event → Prop
  | _, [] => True
  | store, event :: rest => store.Knows (callsOf event) ∧ Informed (store.after event) rest

theorem has_afterAll (has : store.Has id) (events : List Event)
    : (store.afterAll events).Has id := by
  induction events generalizing store with
  | nil => exact has
  | cons event rest ih => exact ih (has_after has event)

theorem Knows.afterAll (knows : store.Knows calls) (events : List Event)
    : (store.afterAll events).Knows calls :=
  fun call listed child given => has_afterAll (knows call listed child given) events

/-- Calls that are only given nodes that a store has at first are informed. -/
theorem informed_of_knows {events : List Event}
    (knows : ∀ event ∈ events, store.Knows (callsOf event))
    : store.Informed events := by
  induction events generalizing store with
  | nil => trivial
  | cons event rest ih =>
      obtain ⟨here, later⟩ := List.forall_mem_cons.mp knows
      exact ⟨here, ih fun other listed => (later other listed).afterAll [event]⟩

/-- The nodes that have been given in calls that were taken are there in the end, by induction on
the events. -/
theorem knows_taken {events : List Event} (informed : store.Informed events)
    : (store.afterAll events).Knows (taken id store events) := by
  induction events generalizing store with
  | nil => exact fun call listed => absurd listed List.not_mem_nil
  | cons event rest ih =>
      obtain ⟨here, later⟩ := informed
      rw [afterAll_cons, taken]
      intro call listed child given
      rcases List.mem_append.mp listed with now | listed
      · have takes : store.taken? id event = some call := Option.mem_toList.mp now
        have known : store.Has child := by
          cases event with
          | called formats other made =>
              simp only [taken?, Option.ite_none_right_eq_some, Option.bind_eq_some_iff] at takes
              obtain ⟨-, cell, -, comes⟩ := takes
              exact here made List.mem_cons_self child (Cell.node_of_effect comes ▸ given)
          | _ => cases takes
        exact has_afterAll (has_after known event) rest
      · exact ih later call listed child given

end Store

-----------------------------------------------------------------------------------------
-- Children
-----------------------------------------------------------------------------------------

namespace NodeCall

variable {calls : List NodeCall} {call : NodeCall}

/-- What is said last is said in one of the calls. -/
theorem said_of_last {α : Type} {said : NodeCall → Option α} {answer : α}
    (found : last said calls = some answer)
    : ∃ call ∈ calls, said call = some answer :=
  List.mem_filterMap.mp (List.mem_of_getLast? found)

theorem node_of_property {entry : Label × NodeId} (said : call.property? = some entry)
    : call.node? = some entry.2 := by
  cases call with
  | addProperty name schema required =>
      simp only [property?, Option.pure_def, Option.bind_eq_bind, Option.bind_eq_some_iff,
        Option.some.injEq] at said
      obtain ⟨label, -, child, given, rfl⟩ := said
      exact given
  | _ => cases said

theorem node_of_pattern {entry : Slot Pattern × NodeId} (said : call.pattern? = some entry)
    : call.node? = some entry.2 := by
  cases call with
  | addPattern pattern schema =>
      simp only [pattern?, Option.pure_def, Option.bind_eq_bind, Option.bind_eq_some_iff,
        Option.some.injEq] at said
      obtain ⟨slot, -, child, given, rfl⟩ := said
      exact given
  | _ => cases said

/-- What a call says of additional members is the node that it is given, or one of the two policies
that need none. -/
theorem additional?_cases {additional : Additional NodeId}
    (said : call.additional? = some additional)
    : (∃ child, call.node? = some child ∧ additional = .schema child)
      ∨ additional = .allow
      ∨ additional = .deny := by
  cases call with
  | assign name value =>
      exact Value.additional?_cases (Option.ite_none_right_eq_some.mp said).2
  | _ => cases said

theorem node_of_items {child : NodeId} (said : call.items? = some child)
    : call.node? = some child := by
  cases call with
  | assign name value => exact (Option.ite_none_right_eq_some.mp said).2
  | _ => cases said

end NodeCall

/-- The children of an object node have been given in the calls that it accounts for. -/
theorem ObjectNode.Accounts.every {node : ObjectNode NodeId} {calls : List NodeCall} {store : Store}
    (accounts : node.Accounts calls) (knows : store.Knows calls)
    : node.Every store.Has := by
  refine ⟨fun entry listed => ?_, fun entry listed => ?_, fun child given => ?_⟩
  · rw [accounts.properties] at listed
    obtain ⟨call, taken, said⟩ := List.mem_filterMap.mp listed
    exact knows call taken entry.2 (NodeCall.node_of_property said)
  · rw [accounts.patterns] at listed
    obtain ⟨call, taken, said⟩ := List.mem_filterMap.mp listed
    exact knows call taken entry.2 (NodeCall.node_of_pattern said)
  · rw [accounts.additional] at given
    cases found : NodeCall.last NodeCall.additional? calls with
    | none => simp [found] at given
    | some additional =>
        obtain ⟨call, taken, said⟩ := NodeCall.said_of_last found
        rw [found, Option.getD_some] at given
        rcases NodeCall.additional?_cases said with ⟨other, named, rfl⟩ | rfl | rfl
        · exact knows call taken child (Option.some.inj given ▸ named)
        · cases given
        · cases given

/-- An object node that accounts for some calls has a schema for additional members exactly where it
validates them by one, and gives back what has been said of them last. -/
theorem ObjectNode.Accounts.additional_read {node : ObjectNode NodeId} {calls : List NodeCall}
    (accounts : node.Accounts calls)
    : node.additional.Agrees
      ∧ node.additionalReading = NodeCall.reading (NodeCall.last NodeCall.additional? calls) := by
  unfold ObjectNode.additionalReading
  rw [accounts.additional]
  cases found : NodeCall.last NodeCall.additional? calls with
  | none => exact ⟨Additional.agrees_allow, rfl⟩
  | some additional =>
      obtain ⟨call, taken, said⟩ := NodeCall.said_of_last found
      rcases NodeCall.additional?_cases said with ⟨child, -, rfl⟩ | rfl | rfl
      · exact ⟨Additional.agrees_schema, rfl⟩
      · exact ⟨Additional.agrees_allow, rfl⟩
      · exact ⟨Additional.agrees_deny, rfl⟩

/-- The items of an array have been given in the calls that it accounts for, or are those that it
has been made with. -/
theorem ArrayNode.Accounts.has_items {anything : NodeId} {node : ArrayNode NodeId}
    {calls : List NodeCall} {store : Store} (accounts : node.Accounts anything calls)
    (knows : store.Knows calls) (has : store.Has anything)
    : store.Has node.items := by
  rw [accounts.items]
  cases found : NodeCall.last NodeCall.items? calls with
  | none => exact has
  | some child =>
      obtain ⟨call, taken, said⟩ := NodeCall.said_of_last found
      exact knows call taken child (NodeCall.node_of_items said)

-----------------------------------------------------------------------------------------
-- Containers after any events
-----------------------------------------------------------------------------------------

namespace Store

/-- Where events come behind the making of a container, they are informed of what it is given, and
so is the container of what it takes. -/
theorem knows_of_informed {store made : Store} {id : NodeId} {event : Event} {events : List Event}
    (informed : store.Informed (event :: events)) (becomes : store.after event = made)
    : (made.afterAll events).Knows (callsOf event ++ taken id made events) := by
  subst becomes
  obtain ⟨here, later⟩ := informed
  intro call listed
  rcases List.mem_append.mp listed with first | taken
  · have made : (store.after event).Knows (callsOf event) := here.afterAll [event]
    exact made.afterAll events call first
  · exact knows_taken later call taken

/-- A container that has been made accounts for all calls that have come to something, first those
that its arguments stand for and then those in any events. Its parts are what has been added and
assigned, in order; names are distinct and not empty, sizes are natural numbers, and children are
nodes of the store. There is a schema for additional members if and only if they are validated by
one, and what has been said of them last is given back. A call that fails leaves everything as it
is, except for a declaration that breaks off at its flag, which leaves the member declared. -/
theorem containers_account_for_calls (before : Store) (arguments : Arguments) (id : NodeId)
    (made : Store) (events : List Event)
    : (addObject arguments before = .ok (id, made)
        → before.Informed (.object arguments :: events)
        → ∃ node : ObjectNode NodeId,
            (made.afterAll events).get? id = some (.object node)
            ∧ node.Accounts (objectCalls arguments ++ taken id made events)
            ∧ node.Every (made.afterAll events).Has
            ∧ (node.additional.policy = .validate ↔ ∃ child, node.additional.schema? = some child)
            ∧ node.additionalReading
              = NodeCall.reading
                  (NodeCall.last NodeCall.additional?
                    (objectCalls arguments ++ taken id made events)))
      ∧ (addArray arguments before = .ok (id, made)
        → before.Informed (.array arguments :: events)
        → ∃ (anything : NodeId) (node : ArrayNode NodeId),
            made.get? anything = some (.leaf defaultRegistry {})
            ∧ (made.afterAll events).get? id = some (.array node)
            ∧ node.Accounts anything (arrayCalls arguments ++ taken id made events)
            ∧ (made.afterAll events).Has node.items)
      ∧ ∀ formats other call failure,
          (made.afterAll events).call formats other call = .error failure
          → made.afterAll (events ++ [.called formats other call]) = made.afterAll events
            ∨ ∃ declaration,
                call.BreaksOff declaration failure
                ∧ (made.afterAll events).call formats other declaration
                  = .ok (made.afterAll (events ++ [.called formats other call])) := by
  refine ⟨fun created informed => ?_, fun created informed => ?_, ?_⟩
  · have becomes : before.after (.object arguments) = made := by
      rw [Store.after, created]
    obtain ⟨node, built, same⟩ := bind_pure_eq_ok_iff.mp created
    obtain ⟨rfl, rfl⟩ := Prod.mk.inj same
    obtain ⟨next, found, accounts⟩ :=
      object_accounts_afterAll (get?_add_self before _) (objectOf_accounts built)
    obtain ⟨agrees, reading⟩ := accounts.additional_read
    rw [Additional.Agrees, Option.isSome_iff_exists] at agrees
    exact ⟨next, found, accounts, accounts.every (knows_of_informed informed becomes), agrees,
      reading⟩
  · have becomes : before.after (.array arguments) = made := by
      rw [Store.after, created]
    obtain ⟨node, built, same⟩ := bind_pure_eq_ok_iff.mp created
    obtain ⟨rfl, rfl⟩ := Prod.mk.inj same
    have anything := get?_add_self before (.leaf defaultRegistry {})
    have kept := extends_add (before.add (.leaf defaultRegistry {})).2 (.array node) _ _ anything
    obtain ⟨next, found, accounts⟩ :=
      array_accounts_afterAll (get?_add_self _ _) (arrayOf_accounts built)
    refine ⟨_, next, kept, found, accounts, ?_⟩
    exact accounts.has_items (knows_of_informed informed becomes) (has_afterAll ⟨_, kept⟩ events)
  · intro formats other call failure failed
    have snoc : made.afterAll (events ++ [.called formats other call])
        = (made.afterAll events).after (.called formats other call) := by
      rw [afterAll, List.foldl_append]
      rfl
    rw [snoc]
    exact after_of_call_failed failed

/-- A view of memory that has been released, which fails when it is asked for its truth. -/
def releasedView : Value :=
  .foreign (.thing {
    className := "memoryview", qualifiedName := "memoryview"
    literal := "<released memory>", display := "<released memory>"
    truth := .error (.raised .value "operation forbidden on released memoryview object")
    items := []
    ending := some (.raised .value "operation forbidden on released memoryview object")
    isHashable := false })

/-- A member is declared, additional members are given a schema, and then a policy that needs one
without it. The member is declared once more, and another one with a flag that has no truth. -/
def repeatedCalls : List Event :=
  [.called (fun _ => .builtIn) 1
      (.addProperty (.string "a") (.foreign (.node 0 "" "")) (.bool true)),
    .called (fun _ => .builtIn) 1 (.addProperty (.string "a") (.foreign (.node 0 "" "")) .null),
    .called (fun _ => .builtIn) 1 (.assign "additional_properties" (.foreign (.node 0 "" ""))),
    .called (fun _ => .builtIn) 1 (.assign "additional_properties" (.string "validate")),
    .called (fun _ => .builtIn) 1
      (.addProperty (.string "c") (.foreign (.node 0 "" "")) releasedView)]

/-- An object keeps the members that have been declared first, the one with the failing flag among
them, and the schema for additional members. -/
theorem object_accounts_for_repeated_calls
    : ∃ node : ObjectNode NodeId,
        (afterAll ⟨#[.leaf 0 {}, .object { required := [.text "b", .text "a"] }]⟩
            repeatedCalls).get? 1
          = some (.object node)
        ∧ node.properties = [(.text "a", 0), (.text "c", 0)]
        ∧ node.required.map (·.word) = ["b", "a"]
        ∧ node.additional = .schema 0
        ∧ node.additionalReading = .schema (some 0) := by
  have created
      : addObject [("required", .list [.string "b", .string "a", .string "b"])] ⟨#[.leaf 0 {}]⟩
        = .ok (1, ⟨#[.leaf 0 {}, .object { required := [.text "b", .text "a"] }]⟩) := rfl
  have informed
      : Informed ⟨#[.leaf 0 {}]⟩
          (.object [("required", .list [.string "b", .string "a", .string "b"])]
            :: repeatedCalls) := by
    have nodes
        : ∀ call
            ∈ List.flatMap callsOf
              (.object [("required", .list [.string "b", .string "a", .string "b"])]
                :: repeatedCalls),
            call.node? = none ∨ call.node? = some 0 := by
      decide
    refine informed_of_knows fun event listed call made child given => ?_
    rcases nodes call (List.mem_flatMap.mpr ⟨event, listed, made⟩) with none | zero
    · nomatch none.symm.trans given
    · obtain rfl := Option.some.inj (zero.symm.trans given)
      exact ⟨_, rfl⟩
  obtain ⟨node, found, accounts, -, -, reading⟩ :=
    (containers_account_for_calls _ _ _ _ repeatedCalls).1 created informed
  exact ⟨node, found, accounts.properties, accounts.required, accounts.additional, reading⟩

/-- A member is declared although the call fails: the flag is only asked for its truth when the node
has been changed. -/
theorem declared_although_failed
    : addObject [] ⟨#[.leaf 0 {}]⟩ = .ok (1, ⟨#[.leaf 0 {}, .object {}]⟩)
      ∧ Store.call (fun _ => .builtIn) ⟨#[.leaf 0 {}, .object {}]⟩ 1
          (.addProperty (.string "a") (.foreign (.node 0 "" "")) releasedView)
        = .error
            (.stopped (.raised .value "operation forbidden on released memoryview object"))
      ∧ ∃ node : ObjectNode NodeId,
          (Store.after ⟨#[.leaf 0 {}, .object {}]⟩
              (.called (fun _ => .builtIn) 1
                (.addProperty (.string "a") (.foreign (.node 0 "" "")) releasedView))).get? 1
            = some (.object node)
          ∧ node.properties = [(.text "a", 0)]
          ∧ node.properties ≠ ({} : ObjectNode NodeId).properties :=
  ⟨rfl, rfl, _, rfl, rfl, List.cons_ne_nil _ _⟩

end Store

end Assay
