import Assay.Number.Basic
import Assay.Pattern.Basic

/-!
Values: JSON documents in memory, and the few things beside them that can stand where a document
or a constraint is expected.
-/

namespace Assay

/-- What an object schema does with members that no declaration covers. -/
inductive Policy where
  | allow
  | deny
  | validate
deriving DecidableEq, Repr, Inhabited

/-- The word for a policy. -/
def Policy.word
    : Policy → String
  | .allow => "allow"
  | .deny => "deny"
  | .validate => "validate"

/-- The policy that a word stands for. -/
def Policy.ofWord? (word : String)
    : Option Policy :=
  [Policy.allow, .deny, .validate].find? (·.word = word)

/-- The name of a policy's constant. -/
def Policy.constant
    : Policy → String
  | .allow => "ALLOW"
  | .deny => "DENY"
  | .validate => "VALIDATE"

/-- Something of any other class: its written forms, and what it answers when it is asked for its
truth or for what it holds one after the other. Either may fail, the second one at its end. -/
structure Thing (α : Type) where
  className : String
  qualifiedName : String
  literal : String
  display : String
  truth : Except Fault Bool
  items : List α
  ending : Option Fault
  isHashable : Bool

/-- Things that are no JSON values, among whatever values they hold. A policy counts as the text of
its word. -/
inductive Foreign (α : Type) where
  /-- An empty sequence of bytes. -/
  | bytes
  /-- An empty set. -/
  | set
  /-- A compiled pattern. -/
  | pattern (pattern : Pattern)
  /-- A compiled pattern of bytes, by the literals of its source and of itself. -/
  | bytesPattern (source literal : String)
  /-- A policy constant. -/
  | policy (policy : Policy)
  /-- A schema node, by its handle, with the name of its class and its written form. -/
  | node (handle : Nat) (className text : String)
  /-- Anything else. -/
  | thing (thing : Thing α)

/-- The two forms of an array, which differ in how they are written alone. -/
inductive ArrayForm where
  | list
  | tuple
deriving DecidableEq, Repr, Inhabited

/-- A JSON document, or something foreign to JSON inside one. -/
inductive Value where
  | null
  | bool (value : Bool)
  | number (value : Number)
  | string (value : String)
  | array (form : ArrayForm) (items : List Value)
  | object (members : List (String × Value))
  | foreign (thing : Foreign Value)

namespace Value

instance : Inhabited Value := ⟨.null⟩

/-- An integer. -/
def int (value : Int)
    : Value :=
  .number (.int value)

/-- A list of values. -/
def list (items : List Value)
    : Value :=
  .array .list items

/-- A member put among others: it takes the place of an earlier one with its name, or comes
last. -/
def putMember {α : Type} (members : List (String × α)) (name : String) (value : α)
    : List (String × α) :=
  match members with
  | [] => [(name, value)]
  | (other, former) :: rest =>
      if other = name then (name, value) :: rest
      else (other, former) :: putMember rest name value

/-- Members written one after the other, of which the last one of a name counts. -/
def ofMembers {α : Type} (written : List (String × α))
    : List (String × α) :=
  written.foldl (fun members member => putMember members member.1 member.2) []

/-- The member that was put is found. -/
theorem lookup_putMember_self {α : Type} (members : List (String × α)) (name : String) (value : α)
    : (putMember members name value).lookup name = some value := by
  induction members with
  | nil => simp [putMember]
  | cons member rest ih =>
      obtain ⟨other, former⟩ := member
      by_cases h : other = name
      · simp [putMember, h]
      · have hne : (name == other) = false := by simp [Ne.symm h]
        simp [putMember, h, List.lookup_cons, hne, ih]

/-- Members of other names are found as before. -/
theorem lookup_putMember_of_ne {α : Type} (members : List (String × α)) {name other : String}
    (value : α) (h : other ≠ name)
    : (putMember members name value).lookup other = members.lookup other := by
  have hne : (other == name) = false := by simp [h]
  induction members with
  | nil => simp [putMember, List.lookup_cons, hne]
  | cons member rest ih =>
      obtain ⟨first, former⟩ := member
      by_cases hf : first = name
      · subst hf
        simp [putMember, List.lookup_cons, hne]
      · simp [putMember, hf, List.lookup_cons, ih]

/-- A new name comes last, and a name that is there keeps its place. -/
theorem names_putMember {α : Type} (members : List (String × α)) (name : String) (value : α)
    : (putMember members name value).map (·.1) =
      if name ∈ members.map (·.1) then members.map (·.1)
      else members.map (·.1) ++ [name] := by
  induction members with
  | nil => simp [putMember]
  | cons member rest ih =>
      obtain ⟨other, former⟩ := member
      by_cases h : other = name
      · simp [putMember, h]
      · have hne : ¬ name = other := fun e => h e.symm
        simp only [putMember, h, if_false, List.map_cons, ih, List.mem_cons]
        by_cases hm : name ∈ rest.map (·.1) <;> simp [hm, hne]

/-- Putting a member keeps names distinct. -/
theorem nodup_putMember {α : Type} {members : List (String × α)} (name : String) (value : α)
    (h : (members.map (·.1)).Nodup)
    : ((putMember members name value).map (·.1)).Nodup := by
  rw [names_putMember]
  split
  · exact h
  · rename_i absent
    refine List.nodup_append.2 ⟨h, by simp, ?_⟩
    intro other member last hl
    obtain rfl := List.mem_singleton.1 hl
    exact fun same => absent (same ▸ member)

/-- Members that have been written one after the other have distinct names, by induction on what
is still to be written. -/
theorem nodup_ofMembers {α : Type} (written : List (String × α))
    : ((ofMembers written).map (·.1)).Nodup := by
  have go : ∀ (written members : List (String × α)), (members.map (·.1)).Nodup →
      ((written.foldl (fun members member => putMember members member.1 member.2) members).map
        (·.1)).Nodup := by
    intro written
    induction written with
    | nil => intro members h; simpa using h
    | cons member rest ih => intro members h; exact ih _ (nodup_putMember _ _ h)
  exact go written [] (by simp)

/-- The object of members that have been written one after the other. -/
def ofWritten (written : List (String × Value))
    : Value :=
  .object (ofMembers written)

/-- The text of a value that is one. -/
def text?
    : Value → Option String
  | .string text => some text
  | .foreign (.policy policy) => some policy.word
  | _ => none

/-- Whether a value is missing. -/
def isNull
    : Value → Bool
  | .null => true
  | _ => false

/-- What a value answers when it is asked for its truth: nothing that is empty or zero counts as
true. -/
def truth
    : Value → Except Fault Bool
  | .null => .ok false
  | .bool value => .ok value
  | .number n => .ok (!n.isZero)
  | .string text => .ok (!text.isEmpty)
  | .array _ items => .ok (!items.isEmpty)
  | .object members => .ok (!members.isEmpty)
  | .foreign .bytes | .foreign .set => .ok false
  | .foreign (.thing thing) => thing.truth
  | .foreign _ => .ok true

/-- Whether a value counts as true. What cannot be asked does not. -/
def isTruthy (value : Value)
    : Bool :=
  value.truth.toOption.getD false

/-- The name of a value's type. -/
def typeName
    : Value → String
  | .null => "NoneType"
  | .bool _ => "bool"
  | .number n => n.typeName
  | .string _ => "str"
  | .array .list _ => "list"
  | .array .tuple _ => "tuple"
  | .object _ => "dict"
  | .foreign .bytes => "bytes"
  | .foreign .set => "set"
  | .foreign (.pattern _) | .foreign (.bytesPattern ..) => "Pattern"
  | .foreign (.policy _) => "AdditionalProperties"
  | .foreign (.node _ className _) => className
  | .foreign (.thing thing) => thing.className

/-- The name of a value's type with the module that it comes from, as faults give it. -/
def qualifiedTypeName
    : Value → String
  | .number n => n.qualifiedTypeName
  | .foreign (.pattern _) | .foreign (.bytesPattern ..) => "re.Pattern"
  | .foreign (.thing thing) => thing.qualifiedName
  | value => value.typeName

/-- A value's member of a name. -/
def member? (members : List (String × Value)) (name : String)
    : Option Value :=
  members.lookup name

/-- The values that a value gives one after the other when it is asked for what it holds, and the
fault that it ends with, if any: the items of an array, the names of an object, the characters of a
text. -/
def iteration
    : Value → List Value × Option Fault
  | .array _ items => (items, none)
  | .object members => (members.map fun member => .string member.1, none)
  | .foreign .bytes | .foreign .set => ([], none)
  | .foreign (.thing thing) => (thing.items, thing.ending)
  | value =>
      match value.text? with
      | some text => (text.toList.map fun c => .string (String.singleton c), none)
      | none => ([], some (.notIterable value.qualifiedTypeName))

/-- The values that a value holds, all of which it has to give. -/
def elements (value : Value)
    : Except Fault (List Value) :=
  match value.iteration with
  | (given, none) => .ok given
  | (_, some fault) => .error fault

mutual

/-- The fault of a value that cannot serve as a name, because it can change or signals. -/
def hashFault?
    : Value → Option Fault
  | .array .tuple items => itemsHashFault? items
  | .array .list _ => some (.unhashable "list")
  | .object _ => some (.unhashable "dict")
  | .foreign .set => some (.unhashable "set")
  | .foreign (.thing thing) =>
      if thing.isHashable then none else some (.unhashable thing.qualifiedName)
  | .number n => if n.isSignalling then some .unhashableNumber else none
  | _ => none

/-- The fault of the first of several values that cannot serve as a name. -/
def itemsHashFault?
    : List Value → Option Fault
  | [] => none
  | item :: rest =>
      match item.hashFault? with
      | some fault => some fault
      | none => itemsHashFault? rest

end

end Value

end Assay
