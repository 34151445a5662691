import Assay.Pattern.Syntax

/-!
How many characters a pattern can match.
-/

namespace Assay.Pattern

/-- The number that stands for any count beyond what patterns can state. -/
def unlimitedWidth : Nat := Nat.pow 2 32 - 1

/-- A width with both ends within what patterns can state; only the greater one may stand for what
is beyond. -/
def Width.capped (width : Width)
    : Width :=
  ⟨min width.least (unlimitedWidth - 1), min width.greatest unlimitedWidth⟩

/-- The width of a sequence of two. -/
def Width.append (a b : Width)
    : Width :=
  ⟨a.least + b.least, a.greatest + b.greatest⟩

/-- The width of a choice between two. -/
def Width.choice (a b : Width)
    : Width :=
  ⟨min a.least b.least, max a.greatest b.greatest⟩

/-- The width of a repetition. -/
def Width.repeated (width : Width) (least : Nat) (most : Option Nat)
    : Width :=
  ⟨width.least * least, width.greatest * most.getD unlimitedWidth⟩

mutual

/-- The width of a term, given the widths of the groups it may refer to. -/
def Node.width (groups : Nat → Width)
    : Node → Width
  | .point _ | .anyChar | .set .. => ⟨1, 1⟩
  | .anchor _ | .look .. => ⟨0, 0⟩
  | .branches alternatives => (alternativesWidth groups alternatives).getD ⟨0, 0⟩
  | .repeated _ least most body => (sequenceWidth groups body).capped.repeated least most
  | .group _ _ _ body | .atomic body => (sequenceWidth groups body).capped
  | .reference number => groups number
  | .conditional _ yes no =>
      (sequenceWidth groups yes).capped.choice (sequenceWidth groups no).capped

/-- The width of a sequence of terms. -/
def sequenceWidth (groups : Nat → Width)
    : List Node → Width
  | [] => ⟨0, 0⟩
  | node :: rest => (node.width groups).append (sequenceWidth groups rest)

/-- The width of a choice between sequences, if there is any. -/
def alternativesWidth (groups : Nat → Width)
    : List (List Node) → Option Width
  | [] => none
  | alternative :: rest =>
      let width := (sequenceWidth groups alternative).capped
      match alternativesWidth groups rest with
      | none => some width
      | some other => some (width.choice other)

end

end Assay.Pattern
