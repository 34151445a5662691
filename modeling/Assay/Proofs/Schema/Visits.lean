import Assay.Schema.Tree

/-! One step of a check: what a schema finds wrong with a value by itself, and the children that it
hands parts of the value to.
-/

namespace Assay

-----------------------------------------------------------------------------------------
-- Breaches, edges and visits
-----------------------------------------------------------------------------------------

/-- What a schema finds wrong with a value without asking a child. -/
inductive Breach where
  | root (complaint : Complaint)
  | missing (name : Label)
  | unexpected (name : String)

/-- The violation that a breach is reported as. -/
def Breach.violation
    : Breach → Violation
  | .root complaint => .ofComplaint complaint
  | .missing name => ObjectNode.missing name
  | .unexpected name => ObjectNode.unexpected name

/-- An edge of a schema tree together with the step in the document that it goes along. A pattern
is told from others by its position in the node. -/
inductive Edge where
  | item (index : Nat)
  | declared (name : Label)
  | pattern (position : Nat) (name : String)
  | additional (name : String)
deriving DecidableEq

/-- The step in the document. -/
def Edge.segment
    : Edge → Segment
  | .item index => .index index
  | .declared name => .member name.display
  | .pattern _ name => .member name
  | .additional name => .member name

/-- What a check comes upon: a breach, or a child that a part of the value is handed to. -/
inductive Visit (α : Type) where
  | report (breach : Breach)
  | descend (edge : Edge) (child : α) (value : Value)

variable {α : Type}

/-- The violations that a visit leads to when children are checked by `run`. -/
def Visit.outcome (run : α → Checker)
    : Visit α → Except Fault (List Violation)
  | .report breach => .ok [breach.violation]
  | .descend edge child value => do
      return Violation.nestAll edge.segment (← run child value)

/-- The violations of several visits, one after the other. -/
def Visit.outcomes (run : α → Checker)
    : List (Visit α) → Except Fault (List Violation)
  | [] => .ok []
  | visit :: rest => do
      let found ← visit.outcome run
      return found ++ (← outcomes run rest)

-----------------------------------------------------------------------------------------
-- The visits of each kind of node
-----------------------------------------------------------------------------------------

/-- The visits of the items of an array. -/
def ArrayNode.visits (node : ArrayNode α) (items : List Value)
    : List (Visit α) :=
  items.zipIdx.map fun item => .descend (.item item.2) node.items item.1

namespace ObjectNode

/-- The visit of a declared member: its value if it is there, a breach if it should be. -/
def declaredVisit (required : List Label) (members : List (String × Value))
    (entry : Label × α)
    : List (Visit α) :=
  match Value.member? members entry.1.word with
  | some value => [.descend (.declared entry.1) entry.2 value]
  | none => if required.any (·.word == entry.1.word) then [.report (.missing entry.1)] else []

/-- The required names that are neither declared nor present. -/
def undeclared (node : ObjectNode α) (members : List (String × Value))
    : List Label :=
  node.required.filter fun name =>
    !node.declares name.word && (Value.member? members name.word).isNone

/-- The visits of a member under the patterns that its name matches; each pattern comes with its
position. -/
def patternVisits (name : String) (value : Value)
    : List ((Slot Pattern × α) × Nat) → Except Fault (List (Visit α))
  | [] => .ok []
  | ((pattern, child), position) :: rest => do
      let hit ← pattern.occursIn name
      let others ← patternVisits name value rest
      return if hit then .descend (.pattern position name) child value :: others else others

/-- The visit of a member that nothing covers, if there is one. -/
def additionalVisits (name : String) (value : Value)
    : Additional α → Except Fault (List (Visit α))
  | ⟨.allow, _⟩ => .ok []
  | ⟨.deny, _⟩ => .ok [.report (.unexpected name)]
  | ⟨.validate, some child⟩ => .ok [.descend (.additional name) child value]
  | ⟨.validate, none⟩ => .error (.noMember Value.null.typeName "validate")

/-- The visits of a member as one of the document: under patterns, or else, unless it is declared,
as one that nothing covers. -/
def memberVisits (node : ObjectNode α) (name : String) (value : Value)
    : Except Fault (List (Visit α)) := do
  let visits ← patternVisits name value node.patterns.zipIdx
  if visits.isEmpty && !node.declares name then additionalVisits name value node.additional
  else return visits

/-- The visits of the members of a document in their order. -/
def otherVisits (node : ObjectNode α)
    : List (String × Value) → Except Fault (List (Visit α))
  | [] => .ok []
  | (name, value) :: rest => do
      let visits ← node.memberVisits name value
      return visits ++ (← node.otherVisits rest)

/-- The visits of an object: declared members, other required ones, the members of the
document. -/
def visits (node : ObjectNode α) (members : List (String × Value))
    : Except Fault (List (Visit α)) := do
  let others ← node.otherVisits members
  return node.properties.flatMap (declaredVisit node.required members)
    ++ (node.undeclared members).map (fun name => .report (.missing name)) ++ others

end ObjectNode

namespace Schema

/-- What a schema says of a value as a whole: any complaint of a leaf, and for containers the kind
and the size. -/
def rootComplaint? (formats : Registries)
    : Schema → Value → Except Fault (Option Complaint)
  | .leaf registry node, value => node.complaint? (formats registry) value
  | .array node, .array _ items => .ok (node.sizeComplaint? items.length)
  | .array _, value => do
      let _ ← value.kind
      return some .notArray
  | .object _, .object _ => .ok none
  | .object _, value => do
      let _ ← value.kind
      return some .notObject

/-- The visits inside a value that the schema has nothing to say against as a whole. -/
def innerVisits
    : Schema → Value → Except Fault (List (Visit Schema))
  | .array node, .array _ items => .ok (node.visits items)
  | .object node, .object members => node.visits members
  | _, _ => .ok []

/-- The visits of a schema at a value. -/
def visits (formats : Registries) (schema : Schema) (value : Value)
    : Except Fault (List (Visit Schema)) := do
  match ← schema.rootComplaint? formats value with
  | some complaint => return [.report (.root complaint)]
  | none => schema.innerVisits value

end Schema

end Assay
