import Assay.Proofs.Schema.Containers
import Assay.Proofs.Store.Events

/-! What arrays and objects hold, told from the calls that they have taken since they were made. The
calls that make a node count among them, and those that it has not taken leave no trace.
-/

namespace Assay

-----------------------------------------------------------------------------------------
-- What calls say
-----------------------------------------------------------------------------------------

/-- The node that a value is. -/
def Value.node?
    : Value → Option NodeId
  | .foreign (.node id _ _) => some id
  | _ => none

/-- The natural number that a value is. -/
def Value.natural?
    : Value → Option Nat
  | .number (.int (.ofNat size)) => some size
  | _ => none

/-- What a value says of additional members: a node that they are checked by, a truth value, or the
word of a policy that needs no node. -/
def Value.additional? (value : Value)
    : Option (Additional NodeId) :=
  match value.node?, value with
  | some child, _ => some (.schema child)
  | none, .bool true => some .allow
  | none, .bool false => some .deny
  | none, value =>
      if value.text? = some Policy.allow.word then some .allow
      else if value.text? = some Policy.deny.word then some .deny
      else none

/-- What a value says of additional members is a node that it is, or one of the two policies that
need none. -/
theorem Value.additional?_cases {value : Value} {additional : Additional NodeId}
    (said : value.additional? = some additional)
    : (∃ child, value.node? = some child ∧ additional = .schema child)
      ∨ additional = .allow
      ∨ additional = .deny := by
  unfold Value.additional? at said
  split at said
  · rename_i child given
    exact Or.inl ⟨child, given, (Option.some.inj said).symm⟩
  · exact Or.inr (Or.inl (Option.some.inj said).symm)
  · exact Or.inr (Or.inr (Option.some.inj said).symm)
  · split_ifs at said
    · exact Or.inr (Or.inl (Option.some.inj said).symm)
    · exact Or.inr (Or.inr (Option.some.inj said).symm)

namespace NodeCall

/-- The node that a call is given. -/
def node?
    : NodeCall → Option NodeId
  | .assign _ value => value.node?
  | .addProperty _ schema _ | .addPattern _ schema => schema.node?

/-- The member that a call declares, with its node. -/
def property?
    : NodeCall → Option (Label × NodeId)
  | .addProperty name schema _ => do return (← Label.ofValue? name, ← schema.node?)
  | _ => none

/-- The pattern of members that a call adds, with its node. -/
def pattern?
    : NodeCall → Option (Slot Pattern × NodeId)
  | .addPattern pattern schema => do
      return (← (ObjectNode.namePattern pattern).toOption, ← schema.node?)
  | _ => none

/-- The required names that a call assigns. -/
def assignedNames?
    : NodeCall → Option (List String)
  | .assign name value =>
      if name = "required" then value.elements.toOption.map (·.filterMap Value.text?) else none
  | _ => none

/-- The name of a member that a call declares as a required one. -/
def addedName?
    : NodeCall → Option String
  | .addProperty name _ required => if required.isTruthy then name.text? else none
  | _ => none

/-- What a call says of additional members. -/
def additional?
    : NodeCall → Option (Additional NodeId)
  | .assign name value => if name = "additional_properties" then value.additional? else none
  | _ => none

/-- The node that a call assigns as the items of an array. -/
def items?
    : NodeCall → Option NodeId
  | .assign name value => if name = "items" then value.node? else none
  | _ => none

/-- The natural number that a call assigns to an attribute. -/
def size? (name : String)
    : NodeCall → Option Nat
  | .assign other value => if other = name then value.natural? else none
  | _ => none

/-- What has been said last in some calls. -/
def last {α : Type} (said : NodeCall → Option α) (calls : List NodeCall)
    : Option α :=
  (calls.filterMap said).getLast?

/-- What is to be given back of additional members where something has been said of them last, if
anything: the node, or the policy, and that all are allowed at first. -/
def reading
    : Option (Additional NodeId) → AdditionalReading NodeId
  | none => .policy .allow
  | some ⟨policy, none⟩ => .policy policy
  | some ⟨_, some child⟩ => .schema (some child)

/-- The words that are to be required after some calls: the names that have been assigned last, and
behind them those that have been declared as required since. -/
def requiredWords (calls : List NodeCall)
    : List String :=
  (last assignedNames? calls).getD []
    ++ (calls.rtakeWhile (·.assignedNames?.isNone)).filterMap addedName?

end NodeCall

/-- What a call comes to is given the node that the call is given. -/
theorem Cell.node_of_effect {formats : Registries} {cell : Cell} {call effect : NodeCall}
    (comes : cell.effect? formats call = some effect)
    : effect.node? = call.node? := by
  unfold Cell.effect? at comes
  split at comes
  · rw [Option.some.inj comes]
  · obtain ⟨unflagged, -⟩ := Option.filter_eq_some_iff.mp comes
    cases call with
    | addProperty => exact Option.some.inj unflagged ▸ rfl
    | _ => cases unflagged

-----------------------------------------------------------------------------------------
-- What a taken call does
-----------------------------------------------------------------------------------------

theorem Store.slot_eq_proper_iff {value : Value} {child : NodeId}
    : slot value = .proper child ↔ value.node? = some child := by
  unfold slot Value.node?
  split <;> simp

/-- A leaf takes a value for one of its fields, or for an attribute that it does not have. -/
inductive Leaf.Takes (formats : FormatRegistry) (leaf : Leaf) (value : Value) : Leaf → Prop
  | field {field next} (set : leaf.assign formats field value = .ok next)
    : Takes formats leaf value next
  | other : Takes formats leaf value leaf

/-- An object node takes a call, and is another one afterwards. -/
inductive ObjectNode.Takes (node : ObjectNode NodeId) : NodeCall → ObjectNode NodeId → Prop
  | property {name schema required label child flag} (named : name? name = some label)
    (fresh : node.declares label.word = false) (given : schema.node? = some child)
    (told : required.truth = .ok flag)
    : Takes node (.addProperty name schema required)
        { node with
          properties := node.properties ++ [(label, child)]
          required := if flag then addName node.required label else node.required }
  | pattern {pattern schema slot child} (read : namePattern pattern = .ok slot)
    (given : schema.node? = some child)
    : Takes node (.addPattern pattern schema)
        { node with patterns := node.patterns ++ [(slot, child)] }
  | required {value names required} (listed : value.elements = .ok names)
    (named : requiredNames [] names = .ok required)
    : Takes node (.assign "required" value) { node with required }
  | additional {value additional} (said : additionalOf (Store.slot value) = .ok additional)
    : Takes node (.assign "additional_properties" value) { node with additional }
  | other {name value} (notRequired : name ≠ "required")
    (notAdditional : name ≠ "additional_properties")
    : Takes node (.assign name value) node

/-- An array node takes a call, and is another one afterwards. -/
inductive ArrayNode.Takes (node : ArrayNode NodeId) : NodeCall → ArrayNode NodeId → Prop
  | items {value child} (given : value.node? = some child)
    : Takes node (.assign "items" value) { node with items := child }
  | minItems {size : Nat}
    : Takes node (.assign "min_items" (.int size)) { node with minItems := size }
  | maxItems {size : Nat}
    : Takes node (.assign "max_items" (.int size)) { node with maxItems := size }
  | other {name value} (notItems : name ≠ "items") (notMinItems : name ≠ "min_items")
    (notMaxItems : name ≠ "max_items")
    : Takes node (.assign name value) node

namespace Store

variable {store later : Store} {id : NodeId} {formats : Registries} {call : NodeCall}

/-- What is assigned to a leaf is assigned to one of its fields, if it changes anything. -/
theorem takes_of_assignCell_leaf {registry : RegistryId} {leaf : Leaf} {changed : Cell}
    {name : String} {value : Value}
    (assigned : (assignCell formats name value).made (.leaf registry leaf) = .ok changed)
    : ∃ next, leaf.Takes (formats registry) value next ∧ changed = .leaf registry next := by
  have assigns := assigns_assignCell formats (.leaf registry leaf) name value
  generalize same : assignCell formats name value (.leaf registry leaf) = result at assigns
  cases assigns with
  | locked =>
      rw [Change.made, same] at assigned
      cases assigned
  | @field _ _ _ field _ named =>
      rw [Change.made_of_within same, Leaf.set, Change.made_write] at assigned
      obtain ⟨next, set, rfl⟩ := bind_pure_eq_ok_iff.mp assigned
      exact ⟨next, .field set, rfl⟩
  | noField =>
      rw [Change.made, same] at assigned
      cases assigned
      exact ⟨leaf, .other, rfl⟩

/-- What is assigned to an object node goes through one of its setters, if it changes anything. -/
theorem takes_of_assignCell_object {node : ObjectNode NodeId} {changed : Cell} {name : String}
    {value : Value}
    (assigned : (assignCell formats name value).made (.object node) = .ok changed)
    : ∃ next, node.Takes (.assign name value) next ∧ changed = .object next := by
  have assigns := assigns_assignCell formats (.object node) name value
  generalize same : assignCell formats name value (.object node) = result at assigns
  cases assigns with
  | locked =>
      rw [Change.made, same] at assigned
      cases assigned
  | required =>
      rw [Change.made_of_within same] at assigned
      obtain ⟨next, set, rfl⟩ := bind_pure_eq_ok_iff.mp assigned
      obtain ⟨-, names, required, listed, named, rfl⟩ := ObjectNode.setRequired_eq_ok_iff.mp set
      exact ⟨_, .required listed named, rfl⟩
  | additional =>
      rw [Change.made_of_within same] at assigned
      obtain ⟨next, set, rfl⟩ := bind_pure_eq_ok_iff.mp assigned
      obtain ⟨additional, said, rfl⟩ := ObjectNode.setAdditional_eq_ok_iff.mp set
      exact ⟨_, .additional said, rfl⟩
  | noMembers notRequired notAdditional =>
      rw [Change.made, same] at assigned
      cases assigned
      exact ⟨node, .other notRequired notAdditional, rfl⟩

/-- What is assigned to an array node goes through one of its setters, if it changes anything. -/
theorem takes_of_assignCell_array {node : ArrayNode NodeId} {changed : Cell} {name : String}
    {value : Value}
    (assigned : (assignCell formats name value).made (.array node) = .ok changed)
    : ∃ next, node.Takes (.assign name value) next ∧ changed = .array next := by
  have assigns := assigns_assignCell formats (.array node) name value
  generalize same : assignCell formats name value (.array node) = result at assigns
  cases assigns with
  | locked =>
      rw [Change.made, same] at assigned
      cases assigned
  | items =>
      rw [Change.made_of_within same] at assigned
      obtain ⟨next, set, rfl⟩ := bind_pure_eq_ok_iff.mp assigned
      obtain ⟨child, given, rfl⟩ := ArrayNode.setItems_eq_ok_iff.mp set
      exact ⟨_, .items (slot_eq_proper_iff.mp given), rfl⟩
  | minItems =>
      rw [Change.made_of_within same] at assigned
      obtain ⟨next, set, rfl⟩ := bind_pure_eq_ok_iff.mp assigned
      obtain ⟨size, read, rfl⟩ := ArrayNode.setMinItems_eq_ok_iff.mp set
      obtain rfl := ArrayNode.size_eq_ok_iff.mp read
      exact ⟨_, .minItems, rfl⟩
  | maxItems =>
      rw [Change.made_of_within same] at assigned
      obtain ⟨next, set, rfl⟩ := bind_pure_eq_ok_iff.mp assigned
      obtain ⟨size, read, rfl⟩ := ArrayNode.setMaxItems_eq_ok_iff.mp set
      obtain rfl := ArrayNode.size_eq_ok_iff.mp read
      exact ⟨_, .maxItems, rfl⟩
  | noPart notItems notMinItems notMaxItems =>
      rw [Change.made, same] at assigned
      cases assigned
      exact ⟨node, .other notItems notMinItems notMaxItems, rfl⟩

/-- A leaf takes assignments alone. -/
theorem takes_of_called_leaf {registry : RegistryId} {leaf : Leaf} {changed : Cell}
    (done : (Cell.leaf registry leaf).called formats call = .ok changed)
    : ∃ value next, leaf.Takes (formats registry) value next ∧ changed = .leaf registry next := by
  cases call with
  | assign name value => exact ⟨value, takes_of_assignCell_leaf done⟩
  | addProperty | addPattern => nomatch done

/-- What an object node takes goes through one of its mutators, if it changes anything. -/
theorem takes_of_called_object {node : ObjectNode NodeId} {changed : Cell}
    (done : (Cell.object node).called formats call = .ok changed)
    : ∃ next, node.Takes call next ∧ changed = .object next := by
  cases call with
  | assign name value => exact @takes_of_assignCell_object formats node changed name value done
  | addProperty name schema required =>
      rw [called_addProperty] at done
      obtain ⟨next, accepted, rfl⟩ := bind_pure_eq_ok_iff.mp done
      obtain ⟨label, child, flag, named, fresh, given, told, rfl⟩ :=
        ObjectNode.addProperty_eq_ok_iff.mp accepted
      exact ⟨_, .property named fresh (slot_eq_proper_iff.mp given) told, rfl⟩
  | addPattern pattern schema =>
      rw [called_addPattern] at done
      obtain ⟨next, accepted, rfl⟩ := bind_pure_eq_ok_iff.mp done
      obtain ⟨slot, child, read, given, rfl⟩ := ObjectNode.addPattern_eq_ok_iff.mp accepted
      exact ⟨_, .pattern read (slot_eq_proper_iff.mp given), rfl⟩

/-- What an array node takes goes through one of its setters, if it changes anything. -/
theorem takes_of_called_array {node : ArrayNode NodeId} {changed : Cell}
    (done : (Cell.array node).called formats call = .ok changed)
    : ∃ next, node.Takes call next ∧ changed = .array next := by
  cases call with
  | assign name value => exact @takes_of_assignCell_array formats node changed name value done
  | addProperty | addPattern => nomatch done

/-- A call on a node that is there is one on what it is, and puts what that becomes in its place. -/
theorem called_of_call {cell : Cell} (found : store.get? id = some cell)
    (done : store.call formats id call = .ok later)
    : ∃ next, cell.called formats call = .ok next ∧ later = store.put id next := by
  obtain ⟨_, next, found', called, same⟩ := call_eq_ok_iff.mp done
  obtain rfl := Option.some.inj (found.symm.trans found')
  exact ⟨next, called, same⟩

theorem takes_of_call_leaf {registry : RegistryId} {leaf : Leaf}
    (found : store.get? id = some (.leaf registry leaf))
    (done : store.call formats id call = .ok later)
    : ∃ value next,
        leaf.Takes (formats registry) value next ∧ later = store.put id (.leaf registry next) := by
  obtain ⟨_, called, rfl⟩ := called_of_call found done
  obtain ⟨value, next, takes, rfl⟩ := takes_of_called_leaf called
  exact ⟨value, next, takes, rfl⟩

theorem takes_of_call_object {node : ObjectNode NodeId}
    (found : store.get? id = some (.object node))
    (done : store.call formats id call = .ok later)
    : ∃ next, node.Takes call next ∧ later = store.put id (.object next) := by
  obtain ⟨_, called, rfl⟩ := called_of_call found done
  obtain ⟨next, takes, rfl⟩ := takes_of_called_object called
  exact ⟨next, takes, rfl⟩

theorem takes_of_call_array {node : ArrayNode NodeId}
    (found : store.get? id = some (.array node))
    (done : store.call formats id call = .ok later)
    : ∃ next, node.Takes call next ∧ later = store.put id (.array next) := by
  obtain ⟨_, called, rfl⟩ := called_of_call found done
  obtain ⟨next, takes, rfl⟩ := takes_of_called_array called
  exact ⟨next, takes, rfl⟩

end Store

-----------------------------------------------------------------------------------------
-- One more call
-----------------------------------------------------------------------------------------

namespace NodeCall

variable {calls : List NodeCall} {call : NodeCall}

/-- What is said last is what the last call says, if it says anything. -/
theorem last_concat {α : Type} (said : NodeCall → Option α) (calls : List NodeCall)
    (call : NodeCall)
    : last said (calls ++ [call]) = (said call).or (last said calls) := by
  unfold last
  cases here : said call <;> simp [List.filterMap_append, here]

theorem requiredWords_of_assigned {names : List String}
    (assigned : call.assignedNames? = some names)
    : requiredWords (calls ++ [call]) = names := by
  simp [requiredWords, last_concat, assigned]

theorem requiredWords_of_unassigned (unassigned : call.assignedNames? = none)
    : requiredWords (calls ++ [call]) = requiredWords calls ++ call.addedName?.toList := by
  cases added : call.addedName? <;>
    simp [requiredWords, last_concat, unassigned, List.filterMap_append, added]

end NodeCall

/-- A policy is the one that its word stands for. -/
theorem Policy.word_of_ofWord? {word : String} {policy : Policy}
    (found : ofWord? word = some policy)
    : word = policy.word := by
  have same := List.find?_some found
  simpa using (of_decide_eq_true same).symm

namespace ObjectNode

/-- A name put behind others is dropped like every further occurrence of a word. -/
theorem words_addName {names : List Label} {words : List String}
    (same : names.map (·.word) = words.eraseDups) (name : Label)
    : (addName names name).map (·.word) = (words ++ [name.word]).eraseDups := by
  have present : names.any (·.word == name.word) ↔ name.word ∈ words := by
    rw [← List.mem_eraseDups, ← same]
    simp
  rw [List.eraseDups_append, ← same, addName]
  by_cases listed : name.word ∈ words
  · simp [present.mpr listed, List.removeAll, listed]
  · have absent : ¬names.any (·.word == name.word) := fun there => listed (present.mp there)
    simp [absent, List.removeAll, listed, List.eraseDups_cons]

/-- Required names that are listed behind others have the words of all of them, each of them where
it occurs first. -/
theorem words_of_requiredNames {values : List Value} {names required : List Label}
    {words : List String} (same : names.map (·.word) = words.eraseDups)
    (listed : requiredNames names values = .ok required)
    : required.map (·.word) = (words ++ values.filterMap Value.text?).eraseDups := by
  induction values generalizing names words with
  | nil =>
      obtain rfl := Except.ok.inj listed
      simpa using same
  | cons value rest ih =>
      rw [requiredNames] at listed
      split at listed
      · rename_i name named
        obtain ⟨text, -⟩ := name?_eq_some_iff.mp named
        have reads : value.text? = some name.word := by
          rw [← Label.word_ofValue?, text, Option.map_some]
        rw [ih (words_addName same name) listed, List.filterMap_cons_some reads]
        simp
      · cases listed

theorem word_ne_of_name? {value : Value} {label : Label} (named : name? value = some label)
    : label.word ≠ "" := by
  intro empty
  simpa [empty] using (name?_eq_some_iff.mp named).2

theorem named_addName {names : List Label} {name : Label}
    (named : ∀ other ∈ names, other.word ≠ "") (nonempty : name.word ≠ "")
    : ∀ other ∈ addName names name, other.word ≠ "" := by
  intro other listed empty
  rcases exists_word_addName.mp ⟨other, listed, empty⟩ with ⟨other, there, empty⟩ | empty
  · exact named other there empty
  · exact nonempty empty

/-- Names that are listed behind others can all name members if the others can. -/
theorem named_of_requiredNames {values : List Value} {names required : List Label}
    (named : ∀ name ∈ names, name.word ≠ "") (listed : requiredNames names values = .ok required)
    : ∀ name ∈ required, name.word ≠ "" := by
  induction values generalizing names with
  | nil =>
      obtain rfl := Except.ok.inj listed
      exact named
  | cons value rest ih =>
      rw [requiredNames] at listed
      split at listed
      · rename_i name found
        exact ih (named_addName named (word_ne_of_name? found)) listed
      · cases listed

end ObjectNode

/-- An object node accounts for some calls: it holds what they say, part by part, and its names can
name members, each of them once. -/
structure ObjectNode.Accounts (node : ObjectNode NodeId) (calls : List NodeCall) : Prop where
  properties : node.properties = calls.filterMap NodeCall.property?
  required : node.required.map (·.word) = (NodeCall.requiredWords calls).eraseDups
  patterns : node.patterns = calls.filterMap NodeCall.pattern?
  additional : node.additional = (NodeCall.last NodeCall.additional? calls).getD .allow
  distinct : node.Distinct
  named : ∀ entry ∈ node.properties, entry.1.word ≠ ""
  requiredNamed : ∀ name ∈ node.required, name.word ≠ ""

/-- An array node accounts for some calls: it holds what they have said last of each of its parts,
and `anything` as its items where they have said nothing of them. -/
structure ArrayNode.Accounts (anything : NodeId) (node : ArrayNode NodeId) (calls : List NodeCall)
    : Prop where
  items : node.items = (NodeCall.last NodeCall.items? calls).getD anything
  minItems : node.minItems = (NodeCall.last (NodeCall.size? "min_items") calls).getD 0
  maxItems : node.maxItems = (NodeCall.last (NodeCall.size? "max_items") calls).getD 0

namespace ObjectNode

variable {node next : ObjectNode NodeId} {call : NodeCall} {calls : List NodeCall}

/-- Names stay distinct, whatever call is taken. -/
theorem Takes.distinct (takes : node.Takes call next) (distinct : node.Distinct)
    : next.Distinct := by
  cases takes with
  | property named fresh given told =>
      exact distinct_of_addProperty distinct
        (addProperty_eq_ok_iff.mpr ⟨_, _, _, named, fresh, rfl, told, rfl⟩)
  | required listed named =>
      exact ⟨distinct.declared, (requiredNames_spec named List.nodup_nil).1⟩
  | pattern | additional => exact ⟨distinct.declared, distinct.required⟩
  | other => exact distinct

theorem accounts_initial
    : ({} : ObjectNode NodeId).Accounts [] :=
  ⟨rfl, rfl, rfl, rfl, distinct_initial, nofun, nofun⟩

/-- What is said of additional members is what the value says. -/
theorem additional_of_said {value : Value} {additional : Additional NodeId}
    (said : additionalOf (Store.slot value) = .ok additional)
    : value.additional? = some additional := by
  cases value with
  | bool allowed =>
      cases allowed with
      | true | false =>
          obtain rfl := Except.ok.inj said
          rfl
  | string text =>
      simp only [Store.slot, additionalOf] at said
      split at said
      · rename_i found
        obtain rfl := Policy.word_of_ofWord? found
        obtain rfl := Except.ok.inj said
        rfl
      · rename_i found
        obtain rfl := Policy.word_of_ofWord? found
        obtain rfl := Except.ok.inj said
        rfl
      · nomatch said
  | foreign thing =>
      cases thing with
      | node child =>
          obtain rfl := Except.ok.inj said
          rfl
      | policy policy =>
          cases policy with
          | allow | deny =>
              obtain rfl := Except.ok.inj said
              rfl
          | validate => nomatch said
      | _ => nomatch said
  | _ => nomatch said

/-- A member that is declared is told by the call. -/
theorem Accounts.property (accounts : node.Accounts calls) {name schema required : Value}
    {label : Label} {child : NodeId} {flag : Bool} (named : name? name = some label)
    (fresh : node.declares label.word = false) (given : schema.node? = some child)
    (told : required.truth = .ok flag)
    : Accounts
        { node with
          properties := node.properties ++ [(label, child)]
          required := if flag then addName node.required label else node.required }
        (calls ++ [.addProperty name schema required]) := by
  obtain ⟨text, -⟩ := name?_eq_some_iff.mp named
  have reads : name.text? = some label.word := by
    rw [← Label.word_ofValue?, text, Option.map_some]
  refine ⟨?_, ?_, ?_, ?_, ?_, ?_, ?_⟩
  · simp [accounts.properties, List.filterMap_append, NodeCall.property?, text, given]
  · rw [NodeCall.requiredWords_of_unassigned rfl]
    have truthy : required.isTruthy = flag := by rw [Value.isTruthy, told]; rfl
    cases flag with
    | true => simpa [NodeCall.addedName?, truthy, reads] using words_addName accounts.required label
    | false => simpa [NodeCall.addedName?, truthy] using accounts.required
  · simp [accounts.patterns, List.filterMap_append, NodeCall.pattern?]
  · simp [accounts.additional, NodeCall.last_concat, NodeCall.additional?]
  · exact (@Takes.property node name schema required _ _ _ named fresh given told).distinct
      accounts.distinct
  · intro entry listed
    rcases List.mem_append.mp listed with there | here
    · exact accounts.named entry there
    · obtain rfl := List.mem_singleton.mp here
      exact word_ne_of_name? named
  · dsimp only
    split
    · exact named_addName accounts.requiredNamed (word_ne_of_name? named)
    · exact accounts.requiredNamed

/-- A node that accounts for some calls accounts for one more that it takes, by the mutator that the
call goes through. -/
theorem Accounts.takes (accounts : node.Accounts calls) (takes : node.Takes call next)
    : next.Accounts (calls ++ [call]) := by
  have declared (name : String) (value : Value)
      : (calls ++ [NodeCall.assign name value]).filterMap NodeCall.property?
        = calls.filterMap NodeCall.property? := by
    simp [List.filterMap_append, NodeCall.property?]
  have matched (name : String) (value : Value)
      : (calls ++ [NodeCall.assign name value]).filterMap NodeCall.pattern?
        = calls.filterMap NodeCall.pattern? := by
    simp [List.filterMap_append, NodeCall.pattern?]
  have distinct := takes.distinct accounts.distinct
  cases takes with
  | property named fresh given told => exact accounts.property named fresh given told
  | @pattern pattern schema slot child read given =>
      have unassigned : (NodeCall.addPattern pattern schema).assignedNames? = none := rfl
      refine ⟨?_, ?_, ?_, ?_, distinct, accounts.named, accounts.requiredNamed⟩
      · simp [accounts.properties, List.filterMap_append, NodeCall.property?]
      · rw [NodeCall.requiredWords_of_unassigned unassigned]
        simpa [NodeCall.addedName?] using accounts.required
      · simp [accounts.patterns, List.filterMap_append, NodeCall.pattern?, read, given,
          Except.toOption]
      · simp [accounts.additional, NodeCall.last_concat, NodeCall.additional?]
  | @required value names required listed named =>
      have assigned : (NodeCall.assign "required" value).assignedNames?
          = some (names.filterMap Value.text?) := by
        simp [NodeCall.assignedNames?, listed, Except.toOption]
      refine ⟨?_, ?_, ?_, ?_, distinct, accounts.named, named_of_requiredNames (by simp) named⟩
      · exact accounts.properties.trans (declared _ _).symm
      · have none : ([] : List Label).map (·.word) = ([] : List String).eraseDups := rfl
        rw [NodeCall.requiredWords_of_assigned assigned]
        exact words_of_requiredNames none named
      · exact accounts.patterns.trans (matched _ _).symm
      · simp [accounts.additional, NodeCall.last_concat, NodeCall.additional?]
  | @additional value additional said =>
      have unassigned : (NodeCall.assign "additional_properties" value).assignedNames? = none := by
        simp [NodeCall.assignedNames?]
      refine ⟨?_, ?_, ?_, ?_, distinct, accounts.named, accounts.requiredNamed⟩
      · exact accounts.properties.trans (declared _ _).symm
      · rw [NodeCall.requiredWords_of_unassigned unassigned]
        simpa [NodeCall.addedName?] using accounts.required
      · exact accounts.patterns.trans (matched _ _).symm
      · simp [NodeCall.last_concat, NodeCall.additional?, additional_of_said said]
  | @other name value notRequired notAdditional =>
      have unassigned : (NodeCall.assign name value).assignedNames? = none := by
        simp [NodeCall.assignedNames?, notRequired]
      refine ⟨?_, ?_, ?_, ?_, distinct, accounts.named, accounts.requiredNamed⟩
      · exact accounts.properties.trans (declared _ _).symm
      · rw [NodeCall.requiredWords_of_unassigned unassigned]
        simpa [NodeCall.addedName?] using accounts.required
      · exact accounts.patterns.trans (matched _ _).symm
      · simp [accounts.additional, NodeCall.last_concat, NodeCall.additional?, notAdditional]

end ObjectNode

namespace ArrayNode

variable {anything : NodeId} {node next : ArrayNode NodeId} {call : NodeCall}
  {calls : List NodeCall}

theorem accounts_initial
    : ArrayNode.Accounts anything { items := anything } [] :=
  ⟨rfl, rfl, rfl⟩

/-- An array that accounts for some calls accounts for one more that it takes, by the setter that
the call goes through. -/
theorem Accounts.takes (accounts : node.Accounts anything calls) (takes : node.Takes call next)
    : next.Accounts anything (calls ++ [call]) := by
  obtain ⟨items, minItems, maxItems⟩ := accounts
  cases takes with
  | items given =>
      refine ⟨?_, ?_, ?_⟩
      · simp [NodeCall.last_concat, NodeCall.items?, given]
      · simpa [NodeCall.last_concat, NodeCall.size?] using minItems
      · simpa [NodeCall.last_concat, NodeCall.size?] using maxItems
  | @minItems size =>
      have reads : (Value.int size).natural? = some size := rfl
      refine ⟨?_, ?_, ?_⟩
      · simpa [NodeCall.last_concat, NodeCall.items?] using items
      · simp [NodeCall.last_concat, NodeCall.size?, reads]
      · simpa [NodeCall.last_concat, NodeCall.size?] using maxItems
  | @maxItems size =>
      have reads : (Value.int size).natural? = some size := rfl
      refine ⟨?_, ?_, ?_⟩
      · simpa [NodeCall.last_concat, NodeCall.items?] using items
      · simpa [NodeCall.last_concat, NodeCall.size?] using minItems
      · simp [NodeCall.last_concat, NodeCall.size?, reads]
  | other notItems notMinItems notMaxItems =>
      refine ⟨?_, ?_, ?_⟩
      · simpa [NodeCall.last_concat, NodeCall.items?, notItems] using items
      · simpa [NodeCall.last_concat, NodeCall.size?, notMinItems] using minItems
      · simpa [NodeCall.last_concat, NodeCall.size?, notMaxItems] using maxItems

end ArrayNode

end Assay
