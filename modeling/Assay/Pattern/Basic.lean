import Assay.Pattern.Parser
import Assay.Pattern.Search

/-!
Patterns: a text that has been read as a regular expression, and the search for it in other texts.
-/

namespace Assay

/-- A regular expression together with the text it was read from. -/
structure Pattern where
  /-- The text of the pattern. -/
  source : String
  /-- The modes it is matched in. -/
  mode : Pattern.Mode
  /-- Its terms. -/
  root : List Pattern.Node
  /-- How it is looked for. -/
  searcher : Pattern.Searcher

namespace Pattern

/-- The name of a kind of repetition. -/
def Greed.name
    : Greed → String
  | .greedy => "MAX_REPEAT"
  | .lazy => "MIN_REPEAT"
  | .possessive => "POSSESSIVE_REPEAT"

/-- What is wrong with the width of a look behind. -/
def Width.lookbehindDefect? (width : Width)
    : Option Defect :=
  if width.least ≠ width.greatest then some .variableLookbehind else none

mutual

/-- What is wrong with a term that could be read: a repetition where the modes refuse it, or a look
behind of a width that varies. -/
def Node.defect? (template : Bool)
    : Node → Option Defect
  | .point _ | .anyChar | .set .. | .anchor _ | .reference _ => none
  | .branches alternatives => alternativesDefect? template alternatives
  | .repeated greed _ _ body =>
      if template then some (.refusedByTemplate greed.name) else sequenceDefect? template body
  | .group _ _ _ body | .atomic body | .look none _ body => sequenceDefect? template body
  | .look (some width) _ body =>
      match width.lookbehindDefect? with
      | some defect => some defect
      | none => sequenceDefect? template body
  | .conditional _ yes no =>
      match sequenceDefect? template yes with
      | some defect => some defect
      | none => sequenceDefect? template no

/-- What is wrong with a sequence of terms. -/
def sequenceDefect? (template : Bool)
    : List Node → Option Defect
  | [] => none
  | node :: rest =>
      match node.defect? template with
      | some defect => some defect
      | none => sequenceDefect? template rest

/-- What is wrong with the first of several sequences that has a defect. -/
def alternativesDefect? (template : Bool)
    : List (List Node) → Option Defect
  | [] => none
  | alternative :: rest =>
      match sequenceDefect? template alternative with
      | some defect => some defect
      | none => alternativesDefect? template rest

end

/-- Reads a text as a pattern; flags inside the text add to the modes given. -/
def compile (source : String) (mode : Mode := {})
    : Except Refusal Pattern := do
  let text := source.toList.toArray
  let initial : Reading :=
    { position := 0, mode, groups := #[none], names := [], outsideLookbehind := none,
      conditions := [] }
  let (root, reading) ← (Reader.wholePattern mode).run text |>.run initial
  match sequenceDefect? reading.mode.template root with
  | some defect => throw (.malformed defect none)
  | none =>
      let least := (sequenceWidth reading.groupWidth root).capped.least
      let searcher := Searcher.ofSequence reading.mode (reading.groups.size - 1) least root
      if looksTooFar searcher.program then throw (.fault .lookbehindTooLong)
      return { source, mode := reading.mode, root, searcher }

/-- Whether a pattern matches some part of a text. A match that leaves a group ending before it
begins is a fault. -/
def occursIn (pattern : Pattern) (text : String)
    : Except Fault Bool :=
  match pattern.searcher.first? text.toList.toArray with
  | none => .ok false
  | some memory => if memory.isTwisted then .error .twistedGroup else .ok true

end Pattern

end Assay
