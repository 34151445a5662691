import Assay.Pattern.Matching

/-!
Searching a text for a pattern: which positions a match is tried at, and the first match.
-/

namespace Assay.Pattern

/-- What a part of a pattern begins with. -/
inductive Lead where
  | literal (n : Nat)
  | nothing
  | other
deriving DecidableEq, Repr

mutual

/-- What a term begins with, as far as it is a literal that has no case to be folded. -/
def Node.lead (mode : Mode)
    : Node → Lead
  | .point n => if mode.folding.touches n n then .other else .literal n
  | .group _ on off body => leadOf (mode.changed on off) body
  | _ => .other

/-- What a sequence of terms begins with. -/
def leadOf (mode : Mode)
    : List Node → Lead
  | [] => .nothing
  | node :: rest =>
      match node.lead mode with
      | .nothing => leadOf mode rest
      | lead => lead

end

/-- Whether an item has no case to be folded, as far as that is looked into. -/
def SetItem.isUncased (folding : Folding)
    : SetItem → Bool
  | .category .. => true
  | .point n => !folding.touches n n
  | .range first last =>
      folding = .exact || (last ≤ basicPlaneEnd && !folding.touches first last)

/-- The first characters of several sequences, if each begins with a character that has no case to
be folded. -/
def firstItems? (folding : Folding) (sequences : List (List Node))
    : Option (List SetItem) :=
  sequences.mapM fun terms =>
    match terms with
    | .point n :: _ => if folding.touches n n then none else some (.point n)
    | _ => none

mutual

/-- The set that a term begins with. Its categories are those of the `whole` pattern's mode, even
where the modes around the set differ. -/
def Node.leadSet? (whole mode : Mode)
    : Node → Option Probe
  | .group _ on off body => leadSetOf? whole (mode.changed on off) body
  | .branches sequences =>
      (firstItems? mode.folding sequences).map fun items =>
        .set .exact false (items.flatMap (·.members .exact whole.ascii))
  | .set true [.point _] => none
  | .set negated items =>
      if items.all (·.isUncased mode.folding) then
        some (.set .exact negated (items.flatMap (·.members .exact whole.ascii)))
      else none
  | _ => none

/-- The set that a sequence of terms begins with. -/
def leadSetOf? (whole mode : Mode)
    : List Node → Option Probe
  | [] => none
  | node :: _ => node.leadSet? whole mode

end

/-- A program with what is known of its matches beforehand. -/
structure Searcher where
  /-- The program. -/
  program : List Instruction
  /-- How many groups keep a text. -/
  groups : Nat
  /-- The least number of characters that a match takes. -/
  least : Nat
  /-- What a match begins with. -/
  lead? : Option Probe

namespace Searcher

/-- The searcher for a sequence of terms. -/
def ofSequence (mode : Mode) (groups least : Nat) (terms : List Node)
    : Searcher where
  program := programOf mode terms
  groups := groups
  least := least
  lead? :=
    if least = 0 then none
    else match leadOf mode terms with
      | .literal n => some (.literal n)
      | _ => leadSetOf? mode mode terms

/-- The positions at which a match is tried. Where nothing is known of its first character, they
leave room for the least match. -/
def starts (searcher : Searcher) (text : Array Char)
    : List Nat :=
  if text.size < searcher.least then []
  else match searcher.lead? with
    | some probe => (List.range text.size).filter (probe.acceptsAt text)
    | none => List.range (text.size + 1 - (searcher.least - 1))

/-- What the first match in a text has kept. -/
def first? (searcher : Searcher) (text : Array Char)
    : Option Memory :=
  (searcher.starts text).findSome? fun start =>
    let memory := ⟨start, Array.replicate (2 * searcher.groups) none, 0⟩
    let outcome := attemptAll text searcher.program false none arrive start memory
    if outcome.matched then some outcome.memory else none

end Searcher

end Assay.Pattern
