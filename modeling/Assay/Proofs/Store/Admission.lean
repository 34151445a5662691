import Assay.Proofs.Schema.Admission
import Assay.Proofs.Schema.Failing
import Assay.Proofs.Store.Leaves
import Assay.Proofs.Store.Reachable

/-! What becomes of any values whatever that the setters and mutators of a node are given: they are
refused, or kept as something of the documented kind, but for the calls that escape. Where nothing
that escapes has been kept, no constraint keeps a check from its answer.
-/

namespace Assay

/-- A field is found by its name. -/
theorem LeafField.ofName?_eq_some_iff {name : String} {field : LeafField}
    : ofName? name = some field ↔ name = field.name := by
  constructor
  · intro found
    have same := List.find?_some found
    exact (of_decide_eq_true same).symm
  · rintro rfl
    cases field <;> rfl

namespace Cell

-----------------------------------------------------------------------------------------
-- What cells keep, and what escapes
-----------------------------------------------------------------------------------------

/-- The calls that a cell has a setter or a mutator for. -/
inductive Offers : Cell → NodeCall → Prop
  | field {registry leaf name field value} (named : LeafField.ofName? name = some field)
    : Offers (.leaf registry leaf) (.assign name value)
  | array {node name value} (own : name = "items" ∨ name = "min_items" ∨ name = "max_items")
    : Offers (.array node) (.assign name value)
  | object {node name value} (own : name = "required" ∨ name = "additional_properties")
    : Offers (.object node) (.assign name value)
  | property {node name schema required}
    : Offers (.object node) (.addProperty name schema required)
  | pattern {node pattern schema}
    : Offers (.object node) (.addPattern pattern schema)

/-- A cell that takes a call keeps what it is given as something of the documented kind: what the
field of a leaf is documented to hold, nodes as children, natural numbers as sizes, texts as names,
and what a text is compiled to, or what has been compiled, as a pattern. -/
inductive Keeps : Cell → NodeCall → Cell → Prop
  | field {registry leaf name field value next} (named : LeafField.ofName? name = some field)
    (keeps : leaf.Keeps field value next)
    : Keeps (.leaf registry leaf) (.assign name value) (.leaf registry next)
  | array {node call next} (takes : node.Takes call next)
    : Keeps (.array node) call (.array next)
  | object {node name value next} (takes : node.Takes (.assign name value) next)
    : Keeps (.object node) (.assign name value) (.object next)
  | property {node name schema required next}
    (takes : node.Takes (.addProperty name schema required) next)
    : Keeps (.object node) (.addProperty name schema required) (.object next)
  | pattern {node pattern schema next}
    (keeps : node.KeepsPattern pattern (Store.slot schema) next)
    : Keeps (.object node) (.addPattern pattern schema) (.object next)

/-- A call on a node that is neither refused nor kept as something of the documented kind. -/
inductive Escapes : Cell → NodeCall → Prop
  | field {registry leaf name field value} (named : LeafField.ofName? name = some field)
    (escapes : leaf.Escapes field value)
    : Escapes (.leaf registry leaf) (.assign name value)
  /-- What is to be required holds no values at all, or fails to give more than some names. -/
  | notIterable {node name value names fault} (named : name = "required")
    (other : value.text? = none)
    (listed : ObjectNode.requiredNames [] value.iteration.1 = .ok names)
    (stops : value.iteration.2 = some fault)
    : Escapes (.object node) (.assign name value)
  /-- What is given for the flag of a member fails when it is asked for its truth. -/
  | untold {node name schema required entry fault}
    (fresh : node.newEntry name (Store.slot schema) = .ok entry)
    (stops : required.truth = .error fault)
    : Escapes (.object node) (.addProperty name schema required)
  | pattern {node pattern schema}
    (escapes : ObjectNode.PatternEscapes pattern (Store.slot schema))
    : Escapes (.object node) (.addPattern pattern schema)

/-- What a cell holds is of the documented kind: the pattern, the format and the bounds of a leaf,
and the patterns of an object. -/
inductive Documented : Cell → Prop
  | leaf {registry leaf} (documented : leaf.Documented) : Documented (.leaf registry leaf)
  | array {node} : Documented (.array node)
  | object {node} (read : ∀ entry ∈ node.patterns, ∃ pattern, entry.1 = .proper pattern)
    : Documented (.object node)

-----------------------------------------------------------------------------------------
-- Calls on cells
-----------------------------------------------------------------------------------------

variable {formats : Registries} {cell next : Cell} {call : NodeCall} {name : String} {value : Value}

/-- What is assigned to an attribute of a leaf is assigned to the field of that name. -/
theorem called_field {registry : RegistryId} {leaf : Leaf} {field : LeafField}
    (named : LeafField.ofName? name = some field)
    : called formats (.leaf registry leaf) (.assign name value)
      = do return .leaf registry (← leaf.assign (formats registry) field value) := by
  have free : (Store.readOnly (.leaf registry leaf)).contains name = false := by
    obtain rfl := LeafField.ofName?_eq_some_iff.mp named
    cases field <;> rfl
  have same
      : Store.assignCell formats name value (.leaf registry leaf)
        = (Leaf.set (formats registry) field value).within (.leaf registry) leaf := by
    simp only [Store.assignCell, free, named]
    rfl
  refine (Change.made_of_within same).trans ?_
  rw [Leaf.set, Change.made_write]

/-- A call of a setter or mutator of a part of a cell never stops if the part's never does. -/
theorem neverStops_of_within {α : Type} {whole : Change Failure Cell Unit} {put : α → Cell}
    {change : Change Failure α Unit} {part : α} (same : whole cell = change.within put part)
    (goes : Leaf.NeverStops (change.made part))
    : Leaf.NeverStops (whole.made cell) := by
  rw [Change.made_of_within same]
  exact goes.bind fun _ => .ok _

theorem array_honours {node : ArrayNode NodeId}
    (own : name = "items" ∨ name = "min_items" ∨ name = "max_items")
    : Honours (Keeps (.array node) (.assign name value))
        (called formats (.array node) (.assign name value)) := by
  refine .of_neverStops ?_ fun after done => ?_
  · unfold called
    rcases own with rfl | rfl | rfl
    · exact neverStops_of_within rfl ArrayNode.setItems_neverStops
    · exact neverStops_of_within rfl ArrayNode.setMinItems_neverStops
    · exact neverStops_of_within rfl ArrayNode.setMaxItems_neverStops
  · obtain ⟨next, takes, rfl⟩ := Store.takes_of_called_array done
    exact .array takes

/-- What goes to an object by a call that never stops is refused, or kept. -/
theorem object_honours {node : ObjectNode NodeId}
    (goes : Leaf.NeverStops (called formats (.object node) (.assign name value)))
    : Honours (Keeps (.object node) (.assign name value))
        (called formats (.object node) (.assign name value)) := by
  refine .of_neverStops goes fun after done => ?_
  obtain ⟨next, takes, rfl⟩ := Store.takes_of_called_object done
  exact .object takes

/-- The assignment of required names stops where what is to hold them gives out with a fault. -/
theorem called_required_eq_stopped_iff {node : ObjectNode NodeId} {fault : Fault}
    : called formats (.object node) (.assign "required" value) = .error (.stopped fault)
      ↔ value.text? = none
        ∧ (∃ names, ObjectNode.requiredNames [] value.iteration.1 = .ok names)
        ∧ value.iteration.2 = some fault := by
  have whole
      : called formats (.object node) (.assign "required" value)
        = do return .object (← (ObjectNode.setRequired value).made node) :=
    @Change.made_of_within _ _ _ (Store.changeCell formats (.assign "required" value)) _ _ _ _ rfl
  rw [whole, bind_pure_eq_error_iff, ObjectNode.setRequired_eq_stopped_iff]

/-- A declaration stops where its flag fails when it is asked for its truth. -/
theorem called_addProperty_eq_stopped_iff {node : ObjectNode NodeId} {schema required : Value}
    {fault : Fault}
    : called formats (.object node) (.addProperty value schema required) = .error (.stopped fault)
      ↔ (∃ entry, node.newEntry value (Store.slot schema) = .ok entry)
        ∧ required.truth = .error fault := by
  rw [Store.called_addProperty, bind_pure_eq_error_iff, ObjectNode.addProperty_eq_stopped_iff]

/-- Required names are refused or kept unless what is to hold them gives out with a fault. -/
theorem required_honours_iff {node : ObjectNode NodeId}
    : Honours (Keeps (.object node) (.assign "required" value))
        (called formats (.object node) (.assign "required" value))
      ↔ ¬Escapes (.object node) (.assign "required" value) := by
  constructor
  · intro honours escapes
    cases escapes with
    | notIterable _ other listed stops =>
        rw [called_required_eq_stopped_iff.mpr ⟨other, ⟨_, listed⟩, stops⟩] at honours
        exact Honours.not_stopped honours
  · intro free
    refine object_honours fun fault stopped => ?_
    obtain ⟨other, ⟨names, listed⟩, stops⟩ := called_required_eq_stopped_iff.mp stopped
    exact free (.notIterable rfl other listed stops)

/-- Of the attributes of an object, only required names can be assigned what escapes. -/
theorem object_honours_iff {node : ObjectNode NodeId}
    (own : name = "required" ∨ name = "additional_properties")
    : Honours (Keeps (.object node) (.assign name value))
        (called formats (.object node) (.assign name value))
      ↔ ¬Escapes (.object node) (.assign name value) := by
  rcases own with rfl | rfl
  · exact required_honours_iff
  · refine iff_of_true (object_honours ?_) fun escapes => ?_
    · exact neverStops_of_within rfl ObjectNode.setAdditional_neverStops
    · cases escapes with
      | notIterable named => exact absurd named (by decide)

/-- A declaration is refused or kept unless its flag fails when it is asked for its truth. -/
theorem property_honours_iff {node : ObjectNode NodeId} {schema required : Value}
    : Honours (Keeps (.object node) (.addProperty value schema required))
        (called formats (.object node) (.addProperty value schema required))
      ↔ ¬Escapes (.object node) (.addProperty value schema required) := by
  constructor
  · intro honours escapes
    cases escapes with
    | untold fresh stops =>
        rw [called_addProperty_eq_stopped_iff.mpr ⟨⟨_, fresh⟩, stops⟩] at honours
        exact Honours.not_stopped honours
  · intro free
    refine .of_neverStops (fun fault stopped => ?_) fun after done => ?_
    · obtain ⟨⟨entry, fresh⟩, stops⟩ := called_addProperty_eq_stopped_iff.mp stopped
      exact free (.untold fresh stops)
    · obtain ⟨next, takes, rfl⟩ := Store.takes_of_called_object done
      exact .property takes

/-- What a cell is given by a call that it offers is refused, or kept as something of the documented
kind, exactly if the call does not escape. -/
theorem called_honours_iff (offers : cell.Offers call)
    : Honours (cell.Keeps call) (cell.called formats call) ↔ ¬cell.Escapes call := by
  cases offers with
  | @field registry leaf name field value named =>
      have only {other : LeafField} (found : LeafField.ofName? name = some other)
          : other = field :=
        Option.some.inj (found.symm.trans named)
      have keeps (after : Leaf)
          : Keeps (.leaf registry leaf) (.assign name value) (.leaf registry after)
            ↔ leaf.Keeps field value after := by
        refine ⟨fun keeps => ?_, .field named⟩
        cases keeps with
        | field found keeps => exact only found ▸ keeps
      have escapes : Escapes (.leaf registry leaf) (.assign name value)
          ↔ leaf.Escapes field value := by
        refine ⟨fun escapes => ?_, .field named⟩
        cases escapes with
        | field found escapes => exact only found ▸ escapes
      simp only [called_field named, Honours.map_iff, keeps, escapes]
      exact Leaf.assign_honours_iff
  | array own =>
      refine iff_of_true (array_honours own) fun escapes => ?_
      cases escapes
  | object own => exact object_honours_iff own
  | property => exact property_honours_iff
  | @pattern node pattern schema =>
      have keeps (after : ObjectNode NodeId)
          : Keeps (.object node) (.addPattern pattern schema) (.object after)
            ↔ node.KeepsPattern pattern (Store.slot schema) after := by
        refine ⟨fun keeps => ?_, .pattern⟩
        cases keeps with
        | pattern keeps => exact keeps
      have escapes : Escapes (.object node) (.addPattern pattern schema)
          ↔ ObjectNode.PatternEscapes pattern (Store.slot schema) := by
        refine ⟨fun escapes => ?_, .pattern⟩
        cases escapes with
        | pattern escapes => exact escapes
      simp only [Store.called_addPattern, Honours.map_iff, keeps, escapes]
      exact ObjectNode.addPattern_honours_iff

/-- A call that escapes stops, or leaves a cell that holds what is not documented. -/
theorem outcome_of_escapes (formats : Registries) (escapes : cell.Escapes call)
    : (∃ fault, cell.called formats call = .error (.stopped fault))
      ∨ ∃ next, cell.called formats call = .ok next ∧ ¬next.Documented := by
  cases escapes with
  | @field registry leaf name field value named escapes =>
      rw [called_field named]
      rcases @Leaf.outcome_of_escapes (formats registry) leaf value field escapes
        with ⟨fault, stopped⟩ | ⟨-, after, assigned, undocumented⟩
      · exact Or.inl ⟨fault, bind_pure_eq_error_iff.mpr stopped⟩
      · refine Or.inr ⟨_, bind_pure_eq_ok_iff.mpr ⟨after, assigned, rfl⟩, fun documented => ?_⟩
        cases documented with
        | leaf documented => exact undocumented documented
  | @notIterable node name value names fault named other listed stops =>
      subst named
      exact Or.inl ⟨fault, called_required_eq_stopped_iff.mpr ⟨other, ⟨_, listed⟩, stops⟩⟩
  | untold fresh stops =>
      exact Or.inl ⟨_, called_addProperty_eq_stopped_iff.mpr ⟨⟨_, fresh⟩, stops⟩⟩
  | @pattern node pattern schema escapes =>
      rw [Store.called_addPattern]
      rcases ObjectNode.outcome_of_patternEscapes node escapes
        with ⟨fault, stopped⟩ | ⟨child, -, -, added⟩
      · exact Or.inl ⟨fault, bind_pure_eq_error_iff.mpr stopped⟩
      · refine Or.inr ⟨_, bind_pure_eq_ok_iff.mpr ⟨_, added, rfl⟩, fun documented => ?_⟩
        cases documented with
        | object read =>
            obtain ⟨pattern, stray⟩ := read _ (List.mem_append_right _ List.mem_cons_self)
            cases stray

-----------------------------------------------------------------------------------------
-- Cells that hold what is documented
-----------------------------------------------------------------------------------------

/-- A cell that keeps what is documented goes on holding such things. -/
theorem Keeps.documented (keeps : cell.Keeps call next) (documented : cell.Documented)
    : next.Documented := by
  cases keeps with
  | field named keeps =>
      cases documented with
      | leaf documented => exact .leaf (keeps.documented documented)
  | array => exact .array
  | object takes | property takes =>
      cases documented with
      | object read =>
          cases takes with
          | _ => exact .object read
  | pattern keeps =>
      cases documented with
      | object read => exact .object (keeps.read read)

/-- What a cell has no setter for leaves it as it is. -/
theorem eq_of_not_offers (alien : ¬cell.Offers call) (done : cell.called formats call = .ok next)
    : next = cell := by
  cases cell with
  | leaf registry leaf =>
      cases call with
      | assign name value =>
          have assigns := Store.assigns_assignCell formats (.leaf registry leaf) name value
          have made : (Store.assignCell formats name value).made (.leaf registry leaf) = .ok next :=
            done
          generalize same : Store.assignCell formats name value (.leaf registry leaf) = result
            at assigns
          rw [Change.made, same] at made
          cases assigns with
          | locked => cases made
          | field named => exact absurd (.field named) alien
          | noField => exact (Except.ok.inj made).symm
      | addProperty | addPattern => cases done
  | array node =>
      obtain ⟨next, takes, rfl⟩ := Store.takes_of_called_array done
      cases takes with
      | items => exact absurd (.array (Or.inl rfl)) alien
      | minItems => exact absurd (.array (Or.inr (Or.inl rfl))) alien
      | maxItems => exact absurd (.array (Or.inr (Or.inr rfl))) alien
      | other => rfl
  | object node =>
      obtain ⟨next, takes, rfl⟩ := Store.takes_of_called_object done
      cases takes with
      | required => exact absurd (.object (Or.inl rfl)) alien
      | additional => exact absurd (.object (Or.inr rfl)) alien
      | property => exact absurd .property alien
      | pattern => exact absurd .pattern alien
      | other => rfl

/-- A call that does not escape leaves a cell that holds what is documented. -/
theorem documented_of_called (documented : cell.Documented) (free : ¬cell.Escapes call)
    (done : cell.called formats call = .ok next)
    : next.Documented := by
  by_cases offers : cell.Offers call
  · have honours := (@called_honours_iff formats cell call offers).mpr free
    rw [done, Honours.ok_iff] at honours
    exact honours.documented documented
  · exact eq_of_not_offers offers done ▸ documented

/-- A leaf that has been read off a definition holds what is documented. -/
theorem documented_of_leafReads {members : Definition.Members} {leaf : Leaf}
    (reads : Definition.LeafReads members leaf)
    : leaf.Documented := by
  refine ⟨⟨fun stray held => ?_, fun stray held => ?_⟩, fun bound held => ?_, fun bound held => ?_⟩
  · obtain ⟨value, -, -, label, pattern, -, -, proper⟩ :=
      Definition.exists_of_read reads.pattern held
    cases proper
  · obtain ⟨value, -, label, -, proper⟩ := Definition.exists_of_read reads.format held
    cases proper
  · obtain ⟨value, -, -, -, real⟩ := Definition.exists_of_read reads.minimum held
    exact real
  · obtain ⟨value, -, -, -, real⟩ := Definition.exists_of_read reads.maximum held
    exact real

/-- What stands for a node of a compiled tree holds what is documented. -/
theorem documented_of_made {setting : Definition.Setting} {schema : Schema}
    (made : Definition.Made setting schema) (stands : cell.StandsFor schema)
    : cell.Documented := by
  cases stands with
  | leaf =>
      rcases made with anything | ⟨definition, built⟩
      · cases anything
        exact .leaf Leaf.documented_initial
      · cases Definition.compile_reads built with
        | leaf reads => exact .leaf (documented_of_leafReads reads)
  | array => exact .array
  | @object node properties patterns additional labels slots =>
      rcases made with anything | ⟨definition, built⟩
      · cases anything
      · cases Definition.compile_reads built with
        | object typed reads =>
            refine .object fun entry listed => ?_
            have there : entry.1 ∈ node.patterns.map (·.1) := slots ▸ List.mem_map_of_mem listed
            obtain ⟨child, member, same⟩ := List.mem_map.mp there
            obtain ⟨-, -, ⟨pattern, -, proper⟩, -⟩ :=
              (Definition.exists_of_forall₂ reads.patterns).2 child member
            exact ⟨pattern, same ▸ proper⟩

-----------------------------------------------------------------------------------------
-- Policies and schemas for additional members
-----------------------------------------------------------------------------------------

/-- A cell that holds an object has a schema for additional members where it validates them by one.
-/
def Agrees (cell : Cell)
    : Prop :=
  ∀ node, cell = .object node → node.additional.Agrees

theorem agrees_leaf (registry : RegistryId) (leaf : Leaf)
    : (Cell.leaf registry leaf).Agrees := by
  intro node same
  cases same

theorem agrees_array (node : ArrayNode NodeId)
    : (Cell.array node).Agrees := by
  intro object same
  cases same

/-- Whatever is said of additional members, the policy and the schema agree. -/
theorem agrees_of_additionalOf {value : Slot NodeId} {additional : Additional NodeId}
    (said : ObjectNode.additionalOf value = .ok additional)
    : additional.Agrees := by
  unfold ObjectNode.additionalOf at said
  split at said
  · exact Except.ok.inj said ▸ Additional.agrees_schema
  · dsimp only at said
    split at said
    · exact Except.ok.inj said ▸ Additional.agrees_allow
    · exact Except.ok.inj said ▸ Additional.agrees_deny
    · cases said

theorem agrees_of_called (agrees : cell.Agrees) (done : cell.called formats call = .ok next)
    : next.Agrees := by
  cases cell with
  | leaf registry leaf =>
      obtain ⟨-, next, -, rfl⟩ := Store.takes_of_called_leaf done
      exact agrees_leaf registry next
  | array node =>
      obtain ⟨next, -, rfl⟩ := Store.takes_of_called_array done
      exact agrees_array next
  | object node =>
      obtain ⟨next, takes, rfl⟩ := Store.takes_of_called_object done
      rintro _ ⟨⟩
      cases takes with
      | additional said => exact agrees_of_additionalOf said
      | _ => exact agrees node rfl

/-- What stands for a node of a compiled tree has a schema where it validates by one. -/
theorem agrees_of_made {setting : Definition.Setting} {schema : Schema}
    (made : Definition.Made setting schema) (stands : cell.StandsFor schema)
    : cell.Agrees := by
  cases stands with
  | leaf => exact agrees_leaf _ _
  | array => exact agrees_array _
  | @object node properties patterns additional labels slots policy given =>
      rintro _ ⟨⟩
      rw [Additional.agrees_congr policy given]
      rcases made with anything | ⟨definition, built⟩
      · cases anything
      · cases Definition.compile_reads built with
        | object typed reads => exact reads.additional.agrees

end Cell

-----------------------------------------------------------------------------------------
-- Stores
-----------------------------------------------------------------------------------------

namespace Store

/-- An event makes a leaf of what strays, or a node takes a call that escapes. -/
inductive Escapes (store : Store) : Event → Prop
  | made {formats registry arguments leaf name field value} (given : (name, value) ∈ arguments)
    (named : LeafField.ofName? name = some field) (strays : field.Strays value)
    (built : leafOf (formats registry) arguments = .ok leaf)
    : store.Escapes (.leaf formats registry arguments)
  | called {formats id cell call effect} (found : store.get? id = some cell)
    (comes : cell.effect? formats call = some effect) (escapes : cell.Escapes effect)
    : store.Escapes (.called formats id call)

/-- Nothing that escapes is kept in several events. -/
def Orderly
    : Store → List Event → Prop
  | _, [] => True
  | store, event :: rest => ¬store.Escapes event ∧ (store.after event).Orderly rest

variable {store : Store} {formats : Registries} {id : NodeId} {cell : Cell} {call : NodeCall}

/-- A new object has no patterns but those that its arguments give as texts. -/
theorem documented_of_objectOf {arguments : Arguments} {node : ObjectNode NodeId}
    (built : objectOf arguments = .ok node)
    : (Cell.object node).Documented := by
  refine .object fun entry listed => ?_
  rw [(objectOf_accounts built).patterns] at listed
  obtain ⟨call, called, said⟩ := List.mem_filterMap.mp listed
  simp only [objectCalls, List.mem_append, List.mem_map, List.mem_singleton] at called
  rcases called with ((⟨_, -, rfl⟩ | rfl) | ⟨member, -, rfl⟩) | rfl
  · cases said
  · cases said
  · simp only [NodeCall.pattern?, Option.pure_def, Option.bind_eq_bind, Option.bind_eq_some_iff,
      Option.some.injEq] at said
    obtain ⟨slot, read, child, -, rfl⟩ := said
    obtain ⟨pattern, -, proper⟩ := bind_pure_eq_ok_iff.mp (toOption_eq_some_iff.mp read)
    exact ⟨pattern, proper.symm⟩
  · cases said

/-- An event in which nothing that escapes is kept leaves cells that hold what is documented, new
ones included. -/
theorem documented_after {event : Event} (documented : store.Every Cell.Documented)
    (free : ¬store.Escapes event)
    : (store.after event).Every Cell.Documented := by
  refine every_after documented fun cell arises => ?_
  cases arises with
  | leaf built =>
      refine .leaf (Leaf.documented_of_ofFields (fun entry listed => ?_) built)
      obtain ⟨⟨name, value⟩, given, named⟩ := List.mem_filterMap.mp listed
      obtain ⟨field, found, rfl⟩ := Option.map_eq_some_iff.mp named
      exact fun strays => free (.made given found strays built)
  | anything => exact .leaf Leaf.documented_initial
  | array => exact .array
  | object built => exact documented_of_objectOf built
  | compiled built contained stands =>
      have made := Definition.made_of_contains (Or.inr ⟨_, built⟩) contained
      exact Cell.documented_of_made made stands
  | called found comes called =>
      refine Cell.documented_of_called (documented _ _ found) (fun escapes => ?_) called
      exact free (.called found comes escapes)

/-- Cells go on holding what is documented as long as nothing that escapes is kept, by induction on
what happens. -/
theorem documented_afterAll {events : List Event} (documented : store.Every Cell.Documented)
    (orderly : store.Orderly events)
    : (store.afterAll events).Every Cell.Documented := by
  induction events generalizing store with
  | nil => exact documented
  | cons event rest ih => exact ih (documented_after documented orderly.1) orderly.2

/-- An event leaves objects with a schema for additional members where they validate them by one. -/
theorem agrees_after {event : Event} (agrees : store.Every Cell.Agrees)
    : (store.after event).Every Cell.Agrees := by
  refine every_after agrees fun cell arises => ?_
  cases arises with
  | leaf => exact Cell.agrees_leaf _ _
  | anything => exact Cell.agrees_leaf _ _
  | array => exact Cell.agrees_array _
  | object built =>
      rintro _ ⟨⟩
      exact (objectOf_accounts built).additional_read.1
  | compiled built contained stands =>
      have made := Definition.made_of_contains (Or.inr ⟨_, built⟩) contained
      exact Cell.agrees_of_made made stands
  | called found _ called => exact Cell.agrees_of_called (agrees _ _ found) called

theorem agrees_afterAll {events : List Event} (agrees : store.Every Cell.Agrees)
    : (store.afterAll events).Every Cell.Agrees := by
  induction events generalizing store with
  | nil => exact agrees
  | cons event rest ih => exact ih (agrees_after agrees)

/-- The check of a store whose cells hold what is documented fails for excused reasons only, by
induction on the depth. -/
theorem checkTo_failsOnlyBy (documented : store.Every Cell.Documented)
    (agrees : store.Every Cell.Agrees) {depth : Nat} {document : Value}
    : FailsOnlyBy (Excused formats) (store.checkTo formats depth id document) := by
  induction depth generalizing id document with
  | zero => exact .error .endless
  | succ depth ih =>
      unfold checkTo
      cases found : store.get? id with
      | none => exact .error .endless
      | some cell =>
          cases documented id cell found with
          | leaf documented => exact Leaf.check_failsOnlyBy documented
          | array => exact ArrayNode.check_failsOnlyBy fun item => ih
          | @object node read =>
              refine ObjectNode.check_failsOnlyBy ?_ ?_ ?_ ?_ ?_
              · intro entry listed
                obtain ⟨child, member, rfl⟩ := List.mem_map.mp listed
                exact read child member
              · intro entry listed value
                obtain ⟨child, member, rfl⟩ := List.mem_map.mp listed
                exact ih
              · intro entry listed value
                obtain ⟨child, member, rfl⟩ := List.mem_map.mp listed
                exact ih
              · intro check said value
                obtain ⟨child, -, rfl⟩ := Option.map_eq_some_iff.mp said
                exact ih
              · have same : (node.additional.map (store.checkTo formats depth)).Agrees
                    ↔ node.additional.Agrees :=
                  Additional.agrees_congr rfl Option.isSome_map
                exact same.mpr (agrees id _ found node rfl)

-----------------------------------------------------------------------------------------
-- Nodes that are called, and what they check
-----------------------------------------------------------------------------------------

/-- A call that a node offers is refused, or keeps what it is given as something of the documented
kind, exactly if it does not escape. -/
theorem call_honours_iff (found : store.get? id = some cell) (offers : cell.Offers call)
    : Honours (fun after => ∃ next, cell.Keeps call next ∧ after = store.put id next)
        (store.call formats id call)
      ↔ ¬cell.Escapes call := by
  have bound : id < store.cells.size := has_iff_lt.mp ⟨cell, found⟩
  have kept (next : Cell)
      : (∃ other, cell.Keeps call other ∧ store.put id next = store.put id other)
        ↔ cell.Keeps call next := by
    constructor
    · rintro ⟨other, keeps, same⟩
      have here := get?_put_self store next bound
      rw [same, get?_put_self store other bound] at here
      exact Option.some.inj here ▸ keeps
    · exact fun keeps => ⟨next, keeps, rfl⟩
  simp only [call_of_found found, Honours.map_iff, kept]
  exact Cell.called_honours_iff offers

/-- A call that escapes stops, or leaves a node that holds what is not documented. -/
theorem outcome_of_call_escaping (formats : Registries) (found : store.get? id = some cell)
    (escapes : cell.Escapes call)
    : (∃ fault, store.call formats id call = .error (.stopped fault))
      ∨ ∃ next, store.call formats id call = .ok (store.put id next) ∧ ¬next.Documented := by
  rw [call_of_found found]
  rcases Cell.outcome_of_escapes formats escapes with ⟨fault, stopped⟩ | ⟨next, kept, undocumented⟩
  · exact Or.inl ⟨fault, bind_pure_eq_error_iff.mpr stopped⟩
  · exact Or.inr ⟨next, bind_pure_eq_ok_iff.mpr ⟨next, kept, rfl⟩, undocumented⟩

/-- Whatever a node is given by a setter or a mutator that it has is refused, or kept as something
of the documented kind, exactly if the call does not escape. A call that escapes stops, or leaves a
node that holds what is not documented. If the store has been reached so that nothing that escapes
has been kept, the checks of its nodes fail only for reasons that no stored constraint is to blame
for. A check fails that gets to something kept as a pattern without being one, or to a bound without
an order. -/
theorem calls_honoured_unless_escaping (found : store.get? id = some cell)
    (offers : cell.Offers call)
    : (Honours (fun after => ∃ next, cell.Keeps call next ∧ after = store.put id next)
          (store.call formats id call)
        ↔ ¬cell.Escapes call)
      ∧ (cell.Escapes call
        → (∃ fault, store.call formats id call = .error (.stopped fault))
          ∨ ∃ next, store.call formats id call = .ok (store.put id next) ∧ ¬next.Documented)
      ∧ (∀ (events : List Event) (place : NodeId) (document : Value) (fault : Fault),
          Orderly {} events
          → store = afterAll {} events
          → store.check formats place document = .error fault
          → Excused formats fault)
      ∧ ∀ (depth : Nat) (place : NodeId) (schema node : Schema) (document part : Value)
          (route : List Edge),
          store.unfoldTo depth place = some schema
          → schema.Walk document route node part
          → node.Mistaken part
          → ¬Returns (store.check formats place document) := by
  refine ⟨call_honours_iff found offers, outcome_of_call_escaping formats found, ?checks, ?mistakes⟩
  case checks =>
    rintro events place document fault orderly rfl failed
    exact checkTo_failsOnlyBy (documented_afterAll every_empty orderly)
      (agrees_afterAll every_empty) fault failed
  case mistakes =>
    intro depth place schema node document part route tree walk mistaken
    rw [check_eq_of_unfoldTo tree]
    exact Schema.not_returns_of_mistaken walk mistaken

/-- A number is kept as the pattern of a leaf of texts, and keeps texts from being checked then. -/
theorem number_kept_as_pattern
    : ¬Honours
          (fun after =>
            ∃ next,
              (Cell.leaf 0 { type := .string }).Keeps (.assign "pattern" (.int 5)) next
              ∧ after = Store.put ⟨#[.leaf 0 { type := .string }]⟩ 0 next)
          (Store.call (fun _ => .builtIn) ⟨#[.leaf 0 { type := .string }]⟩ 0
            (.assign "pattern" (.int 5)))
      ∧ Excused (fun _ => .builtIn) (.notJson "set")
      ∧ ¬Returns
          (Store.check ⟨#[.leaf 0 { type := .string, pattern := some (.stray (.int 5)) }]⟩
            (fun _ => .builtIn) 0 (.string "abc")) := by
  have offers (leaf : Leaf) : (Cell.leaf 0 leaf).Offers (.assign "pattern" (.int 5)) :=
    @Cell.Offers.field _ _ _ .pattern _ rfl
  have before := @calls_honoured_unless_escaping ⟨#[.leaf 0 { type := .string }]⟩
    (fun _ => .builtIn) 0 _ _ rfl (offers _)
  have after := @calls_honoured_unless_escaping
    ⟨#[.leaf 0 { type := .string, pattern := some (.stray (.int 5)) }]⟩
    (fun _ => .builtIn) 0 _ _ rfl (offers _)
  refine ⟨fun honours => ?call, ?check, ?mistake⟩
  case call =>
    have other : ¬LeafField.pattern.Documents (.int 5) := by
      rintro (null | ⟨label, text⟩ | ⟨pattern, compiled⟩)
      · cases null
      · cases text
      · cases compiled
    exact before.1.mp honours (.field rfl (.strayPattern rfl other))
  case check =>
    have orderly : Orderly {} [.leaf (fun _ => .builtIn) 0 [("type", .string "string")]] := by
      refine ⟨fun escapes => ?_, trivial⟩
      cases escapes with
      | made given named strays =>
          obtain ⟨rfl, rfl⟩ := Prod.mk.inj (List.mem_singleton.mp given)
          obtain rfl := Option.some.inj named
          rcases strays with ⟨own, -⟩ | ⟨own, -⟩
          · rcases own with own | own <;> cases own
          · rcases own with own | own <;> cases own
    exact before.2.2.1 _ 0 (.foreign .set) _ orderly rfl rfl
  case mistake =>
    have mistaken
        : (Schema.leaf 0 { type := .string, pattern := some (.stray (.int 5)) }).Mistaken
            (.string "abc") :=
      .leaf rfl rfl rfl nofun
    exact after.2.2.2 1 0 _ _ _ _ _ rfl .here mistaken

end Store

end Assay
