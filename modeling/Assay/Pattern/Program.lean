import Assay.Pattern.Probe

/-!
Programs: the terms of a pattern with their modes settled. Groups leave only the marks at their
two ends, so that every term knows what comes right behind it.
-/

namespace Assay.Pattern

/-- One step of matching a pattern; a program is a list of them. -/
inductive Instruction where
  /-- One character that a probe accepts. -/
  | probe (probe : Probe)
  /-- A place in the text. -/
  | anchor (anchor : Anchor) (multiline ascii : Bool)
  /-- Keeps the position as an end of a group. -/
  | mark (index : Nat)
  /-- The first of several programs with which the rest matches too. -/
  | branch (alternatives : List (List Instruction))
  /-- Several characters that a probe accepts. -/
  | loopProbe (greed : Greed) (least : Nat) (most : Option Nat) (probe : Probe)
  /-- A program several times. -/
  | loop (greed : Greed) (least : Nat) (most : Option Nat) (body : List Instruction)
  /-- The first match of a program alone. -/
  | atomic (body : List Instruction)
  /-- A match of a program that begins `back` characters before, or the lack of one. -/
  | look (back : Nat) (negated : Bool) (body : List Instruction)
  /-- The text that a group has kept. -/
  | reference (number : Nat) (folding : Folding)
  /-- One of two programs, as a group has kept a text or not. -/
  | conditional (number : Nat) (yes no : List Instruction)

mutual

/-- The probe that a term is, also within groups that keep no text. -/
def Node.unit? (mode : Mode)
    : Node → Option Probe
  | .group none on off body => unitOfSequence? (mode.changed on off) body
  | .point n => (Node.point n).probe? mode
  | .anyChar => Node.anyChar.probe? mode
  | .set negated items => (Node.set negated items).probe? mode
  | _ => none

/-- The probe that a sequence of terms is. -/
def unitOfSequence? (mode : Mode)
    : List Node → Option Probe
  | [node] => node.unit? mode
  | _ => none

end

mutual

/-- The program of a term. -/
def Node.program (mode : Mode)
    : Node → List Instruction
  | .point n => [.probe (.ofPoint mode false n)]
  | .anyChar => [.probe (.anyChar mode.dotAll)]
  | .set true [.point n] => [.probe (.ofPoint mode true n)]
  | .set negated items => [.probe (.ofItems mode negated items)]
  | .anchor anchor => [.anchor anchor mode.multiline mode.ascii]
  | .branches alternatives => [.branch (programsOf mode alternatives)]
  | .repeated greed least most body =>
      match unitOfSequence? mode body with
      | some probe => [.loopProbe greed least most probe]
      | none => [.loop greed least most (programOf mode body)]
  | .group none on off body => programOf (mode.changed on off) body
  | .group (some number) on off body =>
      .mark (2 * number - 2) :: programOf (mode.changed on off) body ++ [.mark (2 * number - 1)]
  | .atomic body => [.atomic (programOf mode body)]
  | .look behind negated body =>
      [.look ((behind.map Width.least).getD 0) negated (programOf mode body)]
  | .reference number => [.reference number mode.folding]
  | .conditional number yes no =>
      [.conditional number (programOf mode yes) (programOf mode no)]

/-- The program of a sequence of terms. -/
def programOf (mode : Mode)
    : List Node → List Instruction
  | [] => []
  | node :: rest => node.program mode ++ programOf mode rest

/-- The programs of several sequences of terms. -/
def programsOf (mode : Mode)
    : List (List Node) → List (List Instruction)
  | [] => []
  | terms :: rest => programOf mode terms :: programsOf mode rest

end

/-- A look behind may not begin this many characters before its place. -/
def lookbehindLimit : Nat := Nat.pow 2 31

mutual

/-- Whether a step looks farther behind than it may. -/
def Instruction.looksTooFar
    : Instruction → Bool
  | .probe _ | .anchor .. | .mark _ | .loopProbe .. | .reference .. => false
  | .branch alternatives => someLooksTooFar alternatives
  | .loop _ _ _ body | .atomic body => looksTooFar body
  | .look back _ body => lookbehindLimit ≤ back || looksTooFar body
  | .conditional _ yes no => looksTooFar yes || looksTooFar no

/-- Whether a program looks farther behind than it may. -/
def looksTooFar
    : List Instruction → Bool
  | [] => false
  | instruction :: rest => instruction.looksTooFar || looksTooFar rest

/-- Whether some program looks farther behind than it may. -/
def someLooksTooFar
    : List (List Instruction) → Bool
  | [] => false
  | program :: rest => looksTooFar program || someLooksTooFar rest

end

/-- The literal that a program begins with, or `ahead` if there is nothing in it. -/
def literalAhead (ahead : Option Nat)
    : List Instruction → Option Nat
  | [] => ahead
  | .probe (.literal n) :: _ => some n
  | _ => none

end Assay.Pattern
