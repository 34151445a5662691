import Assay.Schema.Leaf

/-!
Schemas of arrays and objects, over whatever describes their children: assignment of their parts,
and their checks when a child is itself a check.
-/

namespace Assay

/-- What an object schema says of members that no declaration covers: the policy that it follows,
and the schema that there is for them, if any. The two are written one after the other. -/
structure Additional (α : Type) where
  policy : Policy := .allow
  schema? : Option α := none

namespace Additional

/-- Other members are allowed. -/
@[match_pattern] abbrev allow {α : Type}
    : Additional α :=
  ⟨.allow, none⟩

/-- Other members are denied. -/
@[match_pattern] abbrev deny {α : Type}
    : Additional α :=
  ⟨.deny, none⟩

/-- Other members are described by a schema. -/
@[match_pattern] abbrev schema {α : Type} (child : α)
    : Additional α :=
  ⟨.validate, some child⟩

/-- What is said with its child changed. -/
def map {α β : Type} (f : α → β) (additional : Additional α)
    : Additional β :=
  { policy := additional.policy, schema? := additional.schema?.map f }

/-- What is said with its child replaced, if it has one and the child can be. -/
def map? {α β : Type} (f : α → Option β)
    : Additional α → Option (Additional β)
  | ⟨policy, none⟩ => some ⟨policy, none⟩
  | ⟨policy, some child⟩ => (f child).map fun child => ⟨policy, some child⟩

end Additional

/-- What is given back of additional members: the schema where they are validated, which should be
there, and the policy otherwise. -/
inductive AdditionalReading (α : Type) where
  | policy (policy : Policy)
  | schema (schema : Option α)

/-- A schema of arrays: what their items are, and their least and greatest size, zero standing for
no bound. -/
structure ArrayNode (α : Type) where
  items : α
  minItems : Nat := 0
  maxItems : Nat := 0

/-- A schema of objects: declared members, required names, members by pattern, and all others. -/
structure ObjectNode (α : Type) where
  properties : List (Label × α) := []
  required : List Label := []
  patterns : List (Slot Pattern × α) := []
  additional : Additional α := .allow

namespace ArrayNode

variable {α β : Type}

/-- The node with its child changed. -/
def map (f : α → β) (node : ArrayNode α)
    : ArrayNode β :=
  { items := f node.items, minItems := node.minItems, maxItems := node.maxItems }

/-- The node with its child replaced, if the child can be. -/
def map? (f : α → Option β) (node : ArrayNode α)
    : Option (ArrayNode β) := do
  return { items := ← f node.items, minItems := node.minItems, maxItems := node.maxItems }

/-- A size: a natural number. -/
def size (keyword : Keyword)
    : Value → Except Failure Nat
  | .number (.int (.ofNat size)) => .ok size
  | value => .error (.refused (.notNatural keyword value))

/-- Other items, which must be described by a schema. -/
def setItems (items : Slot α)
    : Change Failure (ArrayNode α) Unit :=
  .write fun node =>
    match items with
    | .proper child => .ok { node with items := child }
    | .stray value => .error (.refused (.itemsNotSchema value.typeName))

/-- Another least size. -/
def setMinItems (value : Value)
    : Change Failure (ArrayNode α) Unit :=
  .write fun node => do return { node with minItems := ← size .minItems value }

/-- Another greatest size. -/
def setMaxItems (value : Value)
    : Change Failure (ArrayNode α) Unit :=
  .write fun node => do return { node with maxItems := ← size .maxItems value }

/-- The complaint about a size out of bounds. -/
def sizeComplaint? (node : ArrayNode α) (size : Nat)
    : Option Complaint :=
  if node.maxItems ≠ 0 ∧ node.maxItems < size then some (.tooManyItems size node.maxItems)
  else if node.minItems ≠ 0 ∧ size < node.minItems then
    some (.tooFewItems size node.minItems)
  else none

/-- The violations of items, the first of which has the index `index`. -/
def itemViolations (check : Checker)
    : Nat → List Value → Except Fault (List Violation)
  | _, [] => .ok []
  | index, item :: rest => do
      let violations ← check item
      let others ← itemViolations check (index + 1) rest
      return Violation.nestAll (.index index) violations ++ others

/-- The check of an array: its kind, its size, and each item in turn. -/
def check (node : ArrayNode Checker)
    : Checker := fun value => do
  match ← value.kind, value with
  | _, .array _ items =>
      match node.sizeComplaint? items.length with
      | some complaint => return [.ofComplaint complaint]
      | none => itemViolations node.items 0 items
  | _, _ => return [.ofComplaint .notArray]

end ArrayNode

namespace ObjectNode

variable {α β : Type}

/-- Named children changed. -/
def mapEntries {γ : Type} (f : α → β) (entries : List (γ × α))
    : List (γ × β) :=
  entries.map fun entry => (entry.1, f entry.2)

/-- The node with its children changed. -/
def map (f : α → β) (node : ObjectNode α)
    : ObjectNode β :=
  { properties := mapEntries f node.properties, required := node.required,
    patterns := mapEntries f node.patterns, additional := node.additional.map f }

/-- Named children replaced, if all of them can be. -/
def mapEntries? {γ : Type} (f : α → Option β)
    : List (γ × α) → Option (List (γ × β))
  | [] => some []
  | (name, child) :: rest => do
      let child ← f child
      return (name, child) :: (← mapEntries? f rest)

/-- The node with its children replaced, if all of them can be. -/
def map? (f : α → Option β) (node : ObjectNode α)
    : Option (ObjectNode β) := do
  let properties ← mapEntries? f node.properties
  let patterns ← mapEntries? f node.patterns
  let additional ← node.additional.map? f
  return { properties, required := node.required, patterns, additional }

/-! ## Assignment -/

/-- Whether a name is declared. -/
def declares (node : ObjectNode α) (name : String)
    : Bool :=
  node.properties.any (·.1.word == name)

/-- The child that describes a member, which must be a schema. -/
def entry (keyword : Keyword)
    : Slot α → Except Failure α
  | .proper child => .ok child
  | .stray value => .error (.refused (.entryNotSchema keyword value.typeName))

/-- A label that is not empty. -/
def name? (value : Value)
    : Option Label :=
  (Label.ofValue? value).filter (!·.word.isEmpty)

/-- Names in order, a further one put behind them unless it is among them. -/
def addName (names : List Label) (name : Label)
    : List Label :=
  if names.any (·.word == name.word) then names else names ++ [name]

/-- A member to be declared: its name, which must be new, and its child. -/
def newEntry (node : ObjectNode α) (name : Value) (schema : Slot α)
    : Except Failure (Label × α) :=
  match name? name with
  | none => .error (.refused (.badPropertyName name))
  | some name =>
      if node.declares name.word then .error (.refused (.repeatedProperty name.display))
      else do return (name, ← entry .properties schema)

/-- The node with one more declared member. -/
def declare (node : ObjectNode α) (entry : Label × α)
    : ObjectNode α :=
  { node with properties := node.properties ++ [entry] }

/-- The node with one more required name, unless it is there. -/
def require (node : ObjectNode α) (name : Label)
    : ObjectNode α :=
  { node with required := addName node.required name }

/-- One more declared member, required if the flag counts as true. The flag is asked for its truth
when the member has been declared already. -/
def addProperty (name : Value) (schema : Slot α) (required : Value)
    : Change Failure (ObjectNode α) Unit := do
  let entry ← Change.ask fun node => node.newEntry name schema
  modify fun node => node.declare entry
  let isRequired ← Change.ask fun _ => Leaf.flagOf required
  if isRequired then modify fun node => node.require entry.1

/-- The pattern of members: a text is read, a pattern is taken, anything else is kept as it
is. -/
def namePattern (pattern : Value)
    : Except Failure (Slot Pattern) :=
  match pattern.text?, pattern with
  | some source, _ => do return .proper (← Leaf.readPattern (.badNamePattern source) source)
  | none, .foreign (.pattern pattern) => .ok (.proper pattern)
  | none, value => .ok (.stray value)

/-- One more pattern of members. -/
def addPattern (pattern : Value) (schema : Slot α)
    : Change Failure (ObjectNode α) Unit :=
  .write fun node => do
    let pattern ← namePattern pattern
    let child ← entry .patternProperties schema
    return { node with patterns := node.patterns ++ [(pattern, child)] }

/-- Required names, each one once, behind those in `names`. -/
def requiredNames (names : List Label)
    : List Value → Except Failure (List Label)
  | [] => .ok names
  | value :: rest =>
      match name? value with
      | some name => requiredNames (addName names name) rest
      | none => .error (.refused (.badRequiredName value))

/-- The required names that a value holds, each one once. They are taken as they are given, so what
is no name is refused before a fault further on. -/
def requiredOf (value : Value)
    : Except Failure (List Label) :=
  if value.text?.isSome then .error (.refused .requiredIsText)
  else do
    let names ← requiredNames [] value.iteration.1
    match value.iteration.2 with
    | none => return names
    | some fault => throw (.stopped fault)

/-- Other required names. -/
def setRequired (value : Value)
    : Change Failure (ObjectNode α) Unit :=
  .write fun node => do return { node with required := ← requiredOf value }

/-- What is said of additional members: a truth value, the word of a policy, or a schema. -/
def additionalOf
    : Slot α → Except Failure (Additional α)
  | .proper child => .ok (.schema child)
  | .stray value =>
      let policy? := match value with
        | .bool allowed => some (if allowed then Policy.allow else .deny)
        | value => value.text?.bind Policy.ofWord?
      match policy? with
      | some .allow => .ok .allow
      | some .deny => .ok .deny
      | _ => .error (.refused (.badPolicy value))

/-- Something else said of additional members: the policy is written first, then the schema. -/
def setAdditional (value : Slot α)
    : Change Failure (ObjectNode α) Unit := do
  let said ← Change.ask fun _ => additionalOf value
  modify fun node => { node with additional.policy := said.policy }
  modify fun node => { node with additional.schema? := said.schema? }

/-- What is given back of additional members. -/
def additionalReading (node : ObjectNode α)
    : AdditionalReading α :=
  match node.additional.policy with
  | .validate => .schema node.additional.schema?
  | policy => .policy policy

/-! ## Checks -/

/-- The violation of a required member that is missing. -/
def missing (name : Label)
    : Violation :=
  (Violation.ofComplaint (.missing name.display)).nested (.member name.display)

/-- The violation of a member that nothing covers. -/
def unexpected (name : String)
    : Violation :=
  (Violation.ofComplaint (.unexpected name)).nested (.member name)

/-- The violations of a member under a check. -/
def memberViolations (name : String) (value : Value) (check : Checker)
    : Except Fault (List Violation) := do
  return Violation.nestAll (.member name) (← check value)

/-- The violations of declared members, those that are missing although required among them. -/
def declaredViolations (required : List Label) (members : List (String × Value))
    : List (Label × Checker) → Except Fault (List Violation)
  | [] => .ok []
  | (name, check) :: rest => do
      let violations ← match Value.member? members name.word with
        | some value => memberViolations name.display value check
        | none => pure (if required.any (·.word == name.word) then [missing name] else [])
      return violations ++ (← declaredViolations required members rest)

/-- The violations of required members that are neither declared nor present. -/
def undeclaredViolations (node : ObjectNode Checker) (members : List (String × Value))
    : List Violation :=
  (node.required.filter fun name =>
    !node.declares name.word && (Value.member? members name.word).isNone).map missing

/-- The violations of a member under the patterns that its name matches, and whether it matches
any. -/
def patternViolations (name : String) (value : Value)
    : List (Slot Pattern × Checker) → Except Fault (Bool × List Violation)
  | [] => .ok (false, [])
  | (pattern, check) :: rest => do
      if ← pattern.occursIn name then
        let violations ← memberViolations name value check
        let (_, others) ← patternViolations name value rest
        return (true, violations ++ others)
      else patternViolations name value rest

/-- The violations of a member that no declaration covers. -/
def additionalViolations (name : String) (value : Value)
    : Additional Checker → Except Fault (List Violation)
  | ⟨.allow, _⟩ => .ok []
  | ⟨.deny, _⟩ => .ok [unexpected name]
  | ⟨.validate, some check⟩ => memberViolations name value check
  | ⟨.validate, none⟩ => .error (.noMember Value.null.typeName "validate")

/-- The violations of members under patterns, and of those that nothing covers. -/
def otherViolations (node : ObjectNode Checker)
    : List (String × Value) → Except Fault (List Violation)
  | [] => .ok []
  | (name, value) :: rest => do
      let (matched, violations) ← patternViolations name value node.patterns
      let additional ←
        if matched || node.declares name then pure []
        else additionalViolations name value node.additional
      return violations ++ additional ++ (← otherViolations node rest)

/-- The check of an object: its kind, declared members in the order of their declaration, other
required ones, and the members of the document in its own order. -/
def check (node : ObjectNode Checker)
    : Checker := fun value => do
  match ← value.kind, value with
  | _, .object members => do
      let declared ← declaredViolations node.required members node.properties
      let others ← otherViolations node members
      return declared ++ node.undeclaredViolations members ++ others
  | _, _ => return [.ofComplaint .notObject]

/-- The written form of an object schema, which does not show its children. -/
def literal (node : ObjectNode α)
    : String :=
  "ObjectSchema(properties=" ++ (Value.list (node.properties.map (·.1.value))).literal
    ++ ", required=" ++ (Value.list (node.required.map (·.value))).literal
    ++ ", additional_properties=" ++ node.additional.policy.word ++ ")"

end ObjectNode

end Assay
