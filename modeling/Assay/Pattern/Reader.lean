import Assay.Pattern.Defect
import Assay.Pattern.Width

/-!
Reading the text of a pattern by tokens: single characters, and a backslash with the character
after it. A backslash at the end of the text is refused as soon as the reader comes to it.
-/

namespace Assay.Pattern

/-- What is read at once. -/
inductive Token where
  | plain (c : Char)
  | escaped (c : Char)
deriving DecidableEq, Repr

/-- The characters of a token. -/
def Token.chars
    : Token → List Char
  | .plain c => [c]
  | .escaped c => ['\\', c]

/-- The text of a token. -/
def Token.text (token : Token)
    : String :=
  String.ofList token.chars

/-- What is known while a pattern is read. -/
structure Reading where
  /-- Where the next token begins. -/
  position : Nat
  /-- The modes turned on for the whole pattern. -/
  mode : Mode
  /-- The widths of the groups opened so far, none for an open one; the whole pattern is the
  first. -/
  groups : Array (Option Width)
  /-- The numbers of named groups. -/
  names : List (String × Nat)
  /-- The number of groups outside the outermost look behind that is being read. -/
  outsideLookbehind : Option Nat
  /-- Groups asked for by conditions, each with the place of its first condition. -/
  conditions : List (Nat × Nat)

/-- The width of a group; one that is open or unknown has none. -/
def Reading.groupWidth (reading : Reading) (number : Nat)
    : Width :=
  ((reading.groups[number]?).join).getD ⟨0, 0⟩

/-- A step of reading a text. -/
abbrev Reader (α : Type) : Type :=
  ReaderT (Array Char) (StateT Reading (Except Refusal)) α

namespace Reader

/-- Refuses the text for a defect that begins `back` characters before the next token. -/
def refuse {α : Type} (defect : Defect) (back : Nat := 0)
    : Reader α := do
  throw (.malformed defect (some ((← get).position - back)))

/-- The next token, if the text has not ended. -/
def peek
    : Reader (Option Token) := do
  let text ← read
  let position := (← get).position
  match text[position]? with
  | none => return none
  | some '\\' =>
      match text[position + 1]? with
      | none => return none
      | some c => return some (.escaped c)
  | some c => return some (.plain c)

/-- Moves to a position, which must not hold a backslash that ends the text. -/
def moveTo (position : Nat)
    : Reader Unit := do
  let text ← read
  modify fun reading => { reading with position }
  if position + 1 = text.size ∧ text[position]? = some '\\' then
    refuse .danglingEscape

/-- Takes the next token, if the text has not ended. -/
def take
    : Reader (Option Token) := do
  match ← peek with
  | none => return none
  | some token =>
      moveTo ((← get).position + token.chars.length)
      return some token

/-- Takes the next token if it is the character `c`. -/
def accept (c : Char)
    : Reader Bool := do
  if (← peek) = some (.plain c) then
    discard take
    return true
  else return false

/-- Takes at most `count` characters as long as they satisfy `wanted`. -/
def takeWhile (wanted : Char → Bool)
    : Nat → Reader (List Char)
  | 0 => return []
  | count + 1 => do
      match ← peek with
      | some (.plain c) =>
          if wanted c then
            discard take
            return c :: (← takeWhile wanted count)
          else return []
      | _ => return []

/-- Takes characters up to `terminator`, which is taken too; `taken` are those before. -/
def takeUntilFrom (terminator : Char) (what : String) (taken : List Char)
    : Nat → Reader (List Char)
  | 0 => return taken
  | fuel + 1 => do
      match ← take with
      | none =>
          if taken.isEmpty then refuse (.missing what)
          else refuse (.unterminatedName terminator) taken.length
      | some token =>
          if token = .plain terminator then
            if taken.isEmpty then refuse (.missing what) 1 else return taken
          else takeUntilFrom terminator what (taken ++ token.chars) fuel

/-- Takes a name that `terminator` ends. -/
def takeUntil (terminator : Char) (what : String)
    : Reader (List Char) := do
  takeUntilFrom terminator what [] ((← read).size + 1)

/-- The number of groups opened so far, the whole pattern among them. -/
def groupCount
    : Reader Nat := do
  return (← get).groups.size

/-- Whether a group has been opened and closed. -/
def isClosed (number : Nat)
    : Reader Bool := do
  match (← get).groups[number]? with
  | some (some _) => return true
  | _ => return false

/-- Refuses a group that a look behind may not ask for: an open one, or one of its own. -/
def checkLookbehind (number : Nat)
    : Reader Unit := do
  match (← get).outsideLookbehind with
  | none => return ()
  | some outside =>
      if !(← isClosed number) then refuse .openGroup
      if outside ≤ number then refuse .groupOfSameLookbehind

/-- Opens the next group, under a name that no other group has. -/
def openGroup (name : Option (List Char))
    : Reader Nat := do
  let number ← groupCount
  modify fun reading => { reading with groups := reading.groups.push none }
  match name with
  | none => return number
  | some chars =>
      let name := String.ofList chars
      match (← get).names.find? (·.1 = name) with
      | some (_, former) =>
          refuse (.repeatedGroupName name number former) (chars.length + 1)
      | none =>
          modify fun reading => { reading with names := (name, number) :: reading.names }
          return number

/-- The widths of groups as far as they are known. -/
def groupWidths
    : Reader (Nat → Width) := do
  return (← get).groupWidth

/-- Closes a group whose body has been read. -/
def closeGroup (number : Nat) (body : List Node)
    : Reader Unit := do
  let width := (sequenceWidth (← groupWidths) body).capped
  modify fun reading => { reading with groups := reading.groups.setIfInBounds number (some width) }

end Reader

end Assay.Pattern
