import Assay.Number.Reading

/-!
Numeric addresses of hosts as texts: eight groups of hexadecimal digits, of which one run may be
left out, and the last two of which may be written as four decimal numbers.
-/

namespace Assay.Format
open Number Text

/-- A hexadecimal digit. -/
def isHexDigit (c : Char)
    : Bool :=
  (hexValue? c).isSome

/-- The parts of a text between marks; there is one mark fewer than parts. -/
def partsBetween (mark : Char)
    : List Char → List (List Char)
  | [] => [[]]
  | c :: rest =>
      match partsBetween mark rest with
      | [] => [[c]]
      | part :: others => if c = mark then [] :: part :: others else (c :: part) :: others

/-- A group: one to four hexadecimal digits. -/
def isGroup (cs : List Char)
    : Bool :=
  !cs.isEmpty && cs.length ≤ 4 && cs.all isHexDigit

/-- A decimal number below 256 without needless zeros. -/
def isOctet (cs : List Char)
    : Bool :=
  !cs.isEmpty && cs.length ≤ 3 && cs.all isAsciiDigit && (cs == ['0'] || cs.head? != some '0')
    && digitsValue cs ≤ 255

/-- Four decimal numbers with points between them. -/
def isDottedQuad (cs : List Char)
    : Bool :=
  let parts := partsBetween '.' cs
  parts.length == 4 && parts.all isOctet

/-- How many groups the parts between colons stand for, if they are groups; `dotted` says whether
the last one may be four decimal numbers, which stand for two groups. -/
def groupCount? (dotted : Bool)
    : List (List Char) → Option Nat
  | [] => some 0
  | [part] =>
      if isGroup part then some 1 else if dotted && isDottedQuad part then some 2 else none
  | part :: rest => if isGroup part then (groupCount? dotted rest).map (· + 1) else none

/-- The number of groups in a text, none in the empty one. -/
def groupsIn? (dotted : Bool) (cs : List Char)
    : Option Nat :=
  if cs.isEmpty then some 0 else groupCount? dotted (partsBetween ':' cs)

/-- What stands before and behind the first two colons that follow each other. -/
def atGap?
    : List Char → Option (List Char × List Char)
  | [] => none
  | ':' :: ':' :: rest => some ([], rest)
  | c :: rest => (atGap? rest).map fun (before, behind) => (c :: before, behind)

/-- Whether a text is an address of eight groups, of which one run may be left out. -/
def isGroupedAddress (cs : List Char)
    : Bool :=
  match atGap? cs with
  | none => groupsIn? true cs == some 8
  | some (before, behind) =>
      match groupsIn? false before, groupsIn? true behind with
      | some first, some last => first + last ≤ 7
      | _, _ => false

end Assay.Format
