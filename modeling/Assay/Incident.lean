import Assay.Definition.Assembly
import Assay.Value.JsonText

/-!
Incidents: what is reported when a schema cannot be assembled, with a code, a context and a JSON
form.
-/

namespace Assay
open Text

/-- What is known about an incident: values by keys, in the order in which the keys came up. A key
may be any value that can serve as a name. -/
abbrev Context : Type := List (Value × Value)

namespace Context

/-- The number that a key counts as. -/
def keyNumber?
    : Value → Option Number
  | .bool value => some (.int (if value then 1 else 0))
  | .number n => some n
  | _ => none

/-- Whether two keys are one: numbers of one value are, and so are equal texts. -/
def sameKey (a b : Value)
    : Bool :=
  match keyNumber? a, keyNumber? b, a.text?, b.text? with
  | some a, some b, _, _ => a.isSame b || (a.equal b).toOption == some true
  | _, _, some a, some b => a = b
  | _, _, _, _ => a.isNull && b.isNull

/-- A value put under a key: it takes the place of the former one, or comes last. -/
def put (context : Context) (key value : Value)
    : Context :=
  match context with
  | [] => [(key, value)]
  | (other, former) :: rest =>
      if sameKey other key then (other, value) :: rest
      else (other, former) :: put rest key value

/-- The context of members. -/
def ofMembers (members : List (String × Value))
    : Context :=
  members.map fun (name, value) => (.string name, value)

/-- The key and the value that an element at an index of a sequence stands for: its two parts. -/
def entryOf (index : Nat) (element : Value)
    : Except Fault (Value × Value) :=
  match element.elements with
  | .error _ => .error (.notAPair index)
  | .ok [key, value] =>
      match key.hashFault? with
      | some fault => .error fault
      | none => .ok (key, value)
  | .ok parts => .error (.pairLength index parts.length)

/-- A context with the entries of elements, of which the first one has the index. -/
def putElements (context : Context) (index : Nat)
    : List Value → Except Fault Context
  | [] => .ok context
  | element :: rest => do
      let (key, value) ← entryOf index element
      putElements (context.put key value) (index + 1) rest

/-- The context that a value gives: the members of an object, the pairs of a sequence, nothing if
the value counts as false. -/
def ofValue (value : Value)
    : Except Fault Context :=
  match value with
  | .object members => .ok (ofMembers members)
  | value => do
      if ← value.truth then
        let context ← putElements [] 0 value.iteration.1
        match value.iteration.2 with
        | none => return context
        | some fault => throw fault
      else return []

/-- The JSON name that stands for a key. -/
def keyName?
    : Value → Option String
  | .null => some Value.null.json
  | .bool value => some (Value.bool value).json
  | .number (.int value) => some (Number.int value).json
  | .number (.float value) => some (Number.float value).json
  | key => key.text?

/-- A context as members by the JSON names of its keys; the first key that has none is a fault. -/
def members
    : Context → Except Fault (List (String × Value))
  | [] => .ok []
  | (key, value) :: rest =>
      match keyName? key with
      | some name => (members rest).map ((name, value) :: ·)
      | none => .error (.unwritableKey key.typeName)

end Context

/-- What is reported of an error. -/
structure Incident where
  rank : Rank
  message : String
  code : String
  context : Context
  keyword : Option String := none
  path : String := ""

namespace Incident

/-- An incident of the first rank; an empty code gives way to that of the rank. -/
def base (message : String) (code : Option String) (context : Context)
    : Incident where
  rank := .base
  message
  code := (code.filter (!·.isEmpty)).getD Rank.base.code
  context

/-- A context that names a keyword, unless it is empty. -/
def withKeyword (context : Context) (keyword : Option String)
    : Context :=
  match keyword.filter (!·.isEmpty) with
  | some keyword => context.put (.string "keyword") (.string keyword)
  | none => context

/-- An incident of the second rank. -/
def configuration (message : String) (keyword : Option String) (context : Context)
    : Incident where
  rank := .configuration
  message
  code := Rank.configuration.code
  context := withKeyword context keyword
  keyword

/-- An incident of the third rank, whose context names the path first. -/
def compilation (message : String) (keyword : Option String) (path : String)
    (context : Context)
    : Incident where
  rank := .compilation
  message
  code := Rank.compilation.code
  context := withKeyword (context.put (.string "schema_path") (.string path)) keyword
  keyword
  path

/-- The incident of a refusal. -/
def ofRefusal (refusal : Refusal)
    : Incident :=
  configuration refusal.message (refusal.keyword?.map (·.word)) (.ofMembers refusal.details)

/-- The incident of an error while a definition at a path is compiled. An error that wraps another
one takes over what the other one tells. -/
def ofRejection (path : Definition.Path)
    : Definition.Rejection → Incident
  | .bySetter refusal => ofRefusal refusal
  | .ofDefinition refusal =>
      compilation refusal.message (refusal.keyword?.map (·.word)) path.text []
  | .wrapping inner =>
      let caught := ofRejection path inner
      compilation caught.message caught.keyword path.text caught.context

/-- An incident on one line. -/
def line (incident : Incident)
    : String :=
  "[" ++ incident.code ++ "] - " ++ incident.message

/-- The literal of an incident. -/
def literal (incident : Incident)
    : String :=
  incident.rank.name ++ "(message='" ++ incident.message ++ "', error_code='" ++ incident.code
    ++ "')"

/-- The JSON text of an incident that happened at a time. -/
def json (incident : Incident) (timestamp : String)
    : Except Fault String := do
  let members ← incident.context.members
  return (Value.object
    [("error_type", .string incident.rank.name), ("error_code", .string incident.code),
      ("message", .string incident.message), ("context", .object members),
      ("timestamp", .string timestamp)]).indentedJson

end Incident

end Assay
