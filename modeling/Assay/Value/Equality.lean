import Assay.Value.Basic

/-!
Equality of simple values: numbers by exact value, whatever their class. Where a value is looked for
among others, it is found where it equals one, and where it is one itself.
-/

namespace Assay.Value

/-- Whether two simple values are equal. Containers are never compared by schemas, so they equal
nothing here. -/
def equals (a b : Value)
    : Except Fault Bool :=
  match a, b with
  | .null, .null => .ok true
  | .bool a, .bool b => .ok (a == b)
  | .number a, .number b => a.equal b
  | a, b =>
      match a.text?, b.text? with
      | some a, some b => .ok (a == b)
      | _, _ => .ok false

/-- Whether two values are the same object, as far as it matters where simple values are looked for:
whatever else is the same object is equal. -/
def isSame
    : Value → Value → Bool
  | .number a, .number b => a.isSame b
  | _, _ => false

/-- Whether a value is another one or equals it. It is not asked whether it equals itself. -/
def isOrEquals (a b : Value)
    : Except Fault Bool :=
  if a.isSame b then .ok true else a.equals b

/-- Whether a value is among others, tried in order up to the first that it is or equals. -/
def isAmong (value : Value)
    : List Value → Except Fault Bool
  | [] => .ok false
  | other :: rest => do
      if ← value.isOrEquals other then return true else value.isAmong rest

end Assay.Value
