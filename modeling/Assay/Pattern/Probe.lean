import Assay.Pattern.Syntax
import Assay.Text.Alphabet
import Assay.Text.Blank
import Assay.Text.Casing
import Assay.Text.Digit

/-!
Probes: what a literal, a dot or a character set accepts, once the modes around it are known.
Letters of either case are met by folding the character of the text, not the probe.
-/

namespace Assay.Pattern
open Text

/-- How a character of the text is folded before it is looked at. -/
inductive Folding where
  | exact
  | ascii
  | unicode
deriving DecidableEq, Repr

/-- The last code point of the basic plane. -/
def basicPlaneEnd : Nat := 0xFFFF

namespace Folding

/-- The folded form of a code point. -/
def apply
    : Folding → Nat → Nat
  | .exact, n => n
  | .ascii, n => asciiLowercasePoint n
  | .unicode, n => lowercasePoint n

/-- The folded forms that are taken for the folded form of `n`: those of the same upper-case form.
-/
def alike
    : Folding → Nat → List Nat
  | .unicode, n => uppercaseSharers (lowercasePoint n)
  | folding, n => [folding.apply n]

/-- The code points one of whose folded forms is `n`. -/
def sources
    : Folding → Nat → List Nat
  | .exact, n => [n]
  | .ascii, n => asciiCaseVariants n
  | .unicode, n => caseVariants n

/-- Whether folding matters to some code point from `first` to `last`. -/
def touches (first last : Nat)
    : Folding → Bool
  | .exact => false
  | .ascii =>
      (first ≤ 'Z'.toNat && 'A'.toNat ≤ last) || (first ≤ 'z'.toNat && 'a'.toNat ≤ last)
  | .unicode => casedPoints.meets first last

end Folding

/-- The folding that a mode asks for. -/
def Mode.folding (mode : Mode)
    : Folding :=
  if !mode.caseless then .exact else if mode.ascii then .ascii else .unicode

/-- Whether a character is in a category. -/
def Category.holds (category : Category) (ascii : Bool) (c : Char)
    : Bool :=
  match category with
  | .digit => if ascii then c.isDigit else isDigit c
  | .space => if ascii then c = ' ' || (9 ≤ c.toNat && c.toNat ≤ 13) else isBlank c
  | .word => if ascii then c.isAlphanum || c = '_' else isWord c

/-- A member of a character set, as it is asked about a folded character. -/
inductive Member where
  /-- The character is in a range. -/
  | range (first last : Nat)
  /-- A character of a range folds to the character. -/
  | folded (folding : Folding) (first last : Nat)
  /-- The character or its upper-case form is in a range. -/
  | eitherCase (first last : Nat)
  /-- The character is in a category, or outside it. -/
  | category (category : Category) (negated ascii : Bool)
deriving DecidableEq, Repr

/-- Whether a code point lies in a range. -/
def isBetween (first last n : Nat)
    : Bool :=
  first ≤ n && n ≤ last

/-- Whether a member holds of a folded character. -/
def Member.holds (n : Nat)
    : Member → Bool
  | .range first last => isBetween first last n
  | .folded folding first last => (folding.sources n).any (isBetween first last)
  | .eitherCase first last =>
      isBetween first last n || isBetween first last (uppercasePoint n)
  | .category kind negated ascii => kind.holds ascii (Char.ofNat n) != negated

/-- The members that an item of a set stands for. Beyond the basic plane a character stands for
itself alone, and a range for its members in either case. -/
def SetItem.members (folding : Folding) (ascii : Bool)
    : SetItem → List Member
  | .category kind negated => [.category kind negated ascii]
  | .point n =>
      if n ≤ basicPlaneEnd then (folding.alike n).map fun m => .range m m
      else [.range n n]
  | .range first last =>
      if folding = .exact then [.range first last]
      else if last ≤ basicPlaneEnd then [.folded folding first last]
      else [.folded folding first basicPlaneEnd, .eitherCase first last]

/-- Whether an item makes a set fold characters. Categories never do. -/
def SetItem.folds (folding : Folding)
    : SetItem → Bool
  | .category .. => false
  | .point n => folding != .exact && basicPlaneEnd < n || folding.touches n n
  | .range first last =>
      folding != .exact && basicPlaneEnd < last || folding.touches first last

/-- A test of one character. -/
inductive Probe where
  /-- The character `n`, in no other case. -/
  | literal (n : Nat)
  /-- A character that folds to `n`, or one that does not. -/
  | folded (folding : Folding) (negated : Bool) (n : Nat)
  /-- Any character, line ends among them or not. -/
  | anyChar (lineEnds : Bool)
  /-- A character whose folded form is in a set, or outside it. -/
  | set (folding : Folding) (negated : Bool) (members : List Member)
deriving DecidableEq, Repr

namespace Probe

/-- Whether a probe accepts a character. -/
def accepts (c : Char)
    : Probe → Bool
  | .literal n => c.toNat == n
  | .folded folding negated n => (folding.apply c.toNat == n) != negated
  | .anyChar lineEnds => lineEnds || c != '\n'
  | .set folding negated members =>
      members.any (·.holds (folding.apply c.toNat)) != negated

/-- Whether a probe accepts the character at a position of a text. -/
def acceptsAt (probe : Probe) (text : Array Char) (position : Nat)
    : Bool :=
  match text[position]? with
  | some c => probe.accepts c
  | none => false

/-- Whether a probe looks characters up in a set without folding them. -/
def isExact
    : Probe → Bool
  | .literal _ | .set .exact .. => true
  | _ => false

/-- Whether a probe looks folded characters up in a set. -/
def isFoldedSet
    : Probe → Bool
  | .set .exact .. => false
  | .set .. => true
  | _ => false

/-- The probe for a character, or for all but it. -/
def ofPoint (mode : Mode) (negated : Bool) (n : Nat)
    : Probe :=
  let folding := if mode.folding.touches n n then mode.folding else .exact
  match folding.alike n with
  | [m] => if folding = .exact && !negated then .literal n else .folded folding negated m
  | several => .set folding negated (several.map fun m => .range m m)

/-- The probe for a set. It folds only if folding matters to an item. -/
def ofItems (mode : Mode) (negated : Bool) (items : List SetItem)
    : Probe :=
  let folding := if items.any (·.folds mode.folding) then mode.folding else .exact
  .set folding negated (items.flatMap (·.members folding mode.ascii))

end Probe

/-- The probe that a term is, if it is a test of one character. -/
def Node.probe? (mode : Mode)
    : Node → Option Probe
  | .point n => some (.ofPoint mode false n)
  | .anyChar => some (.anyChar mode.dotAll)
  | .set true [.point n] => some (.ofPoint mode true n)
  | .set negated items => some (.ofItems mode negated items)
  | _ => none

end Assay.Pattern
