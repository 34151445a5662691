/-!
Regular expressions as trees, and the modes under which they are read and matched.
-/

namespace Assay.Pattern

/-- The modes that a pattern's flags turn on. -/
structure Mode where
  /-- Letters match in either case. -/
  caseless : Bool := false
  /-- Line anchors hold at every line of the text. -/
  multiline : Bool := false
  /-- The dot matches line ends too. -/
  dotAll : Bool := false
  /-- White space and comments in the pattern are skipped. -/
  verbose : Bool := false
  /-- Character categories hold ASCII characters alone. -/
  ascii : Bool := false
  /-- Character categories hold characters of every script, asked for explicitly. -/
  unicode : Bool := false
  /-- Repetitions are refused. -/
  template : Bool := false
deriving DecidableEq, Repr, Inhabited

/-- The modes of either. -/
def Mode.union (a b : Mode)
    : Mode where
  caseless := a.caseless || b.caseless
  multiline := a.multiline || b.multiline
  dotAll := a.dotAll || b.dotAll
  verbose := a.verbose || b.verbose
  ascii := a.ascii || b.ascii
  unicode := a.unicode || b.unicode
  template := a.template || b.template

/-- Whether both turn on a same mode. -/
def Mode.overlaps (a b : Mode)
    : Bool :=
  a.caseless && b.caseless || a.multiline && b.multiline || a.dotAll && b.dotAll
    || a.verbose && b.verbose || a.ascii && b.ascii || a.unicode && b.unicode
    || a.template && b.template

/-- The modes inside a group that turns `on` and `off` some. Asking for one kind of categories
takes the place of the other. -/
def Mode.changed (mode on off : Mode)
    : Mode where
  caseless := (mode.caseless || on.caseless) && !off.caseless
  multiline := (mode.multiline || on.multiline) && !off.multiline
  dotAll := (mode.dotAll || on.dotAll) && !off.dotAll
  verbose := (mode.verbose || on.verbose) && !off.verbose
  ascii := if on.ascii then true else if on.unicode then false else mode.ascii
  unicode := if on.unicode then true else if on.ascii then false else mode.unicode
  template := mode.template

/-- Whether no mode is turned on. -/
def Mode.isPlain (mode : Mode)
    : Bool :=
  mode == {}

/-- Named categories of characters. -/
inductive Category where
  | digit
  | space
  | word
deriving DecidableEq, Repr

/-- A member of a character set. Code points are numbers, because a pattern may name a surrogate,
which no text holds. -/
inductive SetItem where
  | point (n : Nat)
  | range (first last : Nat)
  | category (category : Category) (negated : Bool)
deriving DecidableEq, Repr

/-- A place in the text that a pattern can ask for. -/
inductive Anchor where
  | lineStart
  | lineEnd
  | textStart
  | textEnd
  | boundary
  | notBoundary
deriving DecidableEq, Repr

/-- What a repetition does first: more, less, or as much as it can without ever giving back. -/
inductive Greed where
  | greedy
  | lazy
  | possessive
deriving DecidableEq, Repr

/-- The least and the greatest number of characters that a pattern matches. -/
structure Width where
  least : Nat
  greatest : Nat
deriving DecidableEq, Repr, Inhabited

/-- One term of a pattern; a sequence of terms is a list. -/
inductive Node where
  /-- One character. -/
  | point (n : Nat)
  /-- Any character, or any but a line end. -/
  | anyChar
  /-- One character of a set, or one outside it. -/
  | set (negated : Bool) (items : List SetItem)
  /-- A place in the text. -/
  | anchor (anchor : Anchor)
  /-- The first of several sequences that matches. -/
  | branches (alternatives : List (List Node))
  /-- A sequence several times, `most` without a limit if there is none. -/
  | repeated (greed : Greed) (least : Nat) (most : Option Nat) (body : List Node)
  /-- A sequence under changed modes, whose text a number may keep. -/
  | group (number : Option Nat) (on off : Mode) (body : List Node)
  /-- A sequence of which only the first match is tried. -/
  | atomic (body : List Node)
  /-- A look at the text ahead, or at the text behind if there is a width to go back. -/
  | look (behind : Option Width) (negated : Bool) (body : List Node)
  /-- The text that a group has kept. -/
  | reference (number : Nat)
  /-- One of two sequences, as a group has kept a text or not. -/
  | conditional (number : Nat) (yes no : List Node)

end Assay.Pattern
