import Mathlib

/-! The grammar of references to resources, as RFC 3986 has it: each of its rules is the language of
the texts that it derives. A sum stands for alternatives, a product for what follows each other, a
star for any number of repetitions.
-/

namespace Assay.Format.Grammar
open Computability

-----------------------------------------------------------------------------------------
-- Characters
-----------------------------------------------------------------------------------------

/-- Any one character that a condition holds of. -/
def oneOf (holds : Char → Prop)
    : Language Char :=
  {cs | ∃ c, holds c ∧ cs = [c]}

/-- One character. -/
def mark (c : Char)
    : Language Char :=
  oneOf (· = c)

/-- Any one of some characters. -/
def anyOf (marks : String)
    : Language Char :=
  oneOf (· ∈ marks.toList)

/-- Any one character of a range. -/
def range (first last : Char)
    : Language Char :=
  oneOf fun c => first ≤ c ∧ c ≤ last

/-- What may be left out. -/
def optional (l : Language Char)
    : Language Char :=
  1 + l

/-- At most a number of repetitions. -/
def upTo (n : Nat) (l : Language Char)
    : Language Char :=
  {cs | ∃ k ≤ n, cs ∈ l ^ k}

def alpha : Language Char := range 'A' 'Z' + range 'a' 'z'

def digit : Language Char := range '0' '9'

def hexDigit : Language Char := digit + range 'A' 'F' + range 'a' 'f'

def unreserved : Language Char := alpha + digit + anyOf "-._~"

def generalDelimiter : Language Char := anyOf ":/?#[]@"

def subDelimiter : Language Char := anyOf "!$&'()*+,;="

def reserved : Language Char := generalDelimiter + subDelimiter

/-- A character escaped by a percent sign and two hexadecimal digits. -/
def percentEncoded : Language Char := mark '%' * hexDigit * hexDigit

/-- A character of a path. -/
def pathCharacter : Language Char := unreserved + percentEncoded + subDelimiter + anyOf ":@"

-----------------------------------------------------------------------------------------
-- Authorities
-----------------------------------------------------------------------------------------

/-- A decimal number from 0 to 255. -/
def octet : Language Char :=
  digit + range '1' '9' * digit + mark '1' * digit * digit
    + mark '2' * range '0' '4' * digit + mark '2' * mark '5' * range '0' '5'

def ipv4Address : Language Char :=
  octet * mark '.' * octet * mark '.' * octet * mark '.' * octet

/-- A group of an address: one to four hexadecimal digits. -/
def group : Language Char := hexDigit * upTo 3 hexDigit

/-- A group and the colon behind it. -/
def groupColon : Language Char := group * mark ':'

/-- The last two groups of an address, which may be written as an address of four numbers. -/
def lastGroups : Language Char := group * mark ':' * group + ipv4Address

/-- The two colons that stand for groups left out. -/
def gap : Language Char := mark ':' * mark ':'

def ipv6Address : Language Char :=
  groupColon ^ 6 * lastGroups
    + gap * groupColon ^ 5 * lastGroups
    + optional group * gap * groupColon ^ 4 * lastGroups
    + optional (upTo 1 groupColon * group) * gap * groupColon ^ 3 * lastGroups
    + optional (upTo 2 groupColon * group) * gap * groupColon ^ 2 * lastGroups
    + optional (upTo 3 groupColon * group) * gap * groupColon * lastGroups
    + optional (upTo 4 groupColon * group) * gap * lastGroups
    + optional (upTo 5 groupColon * group) * gap * group
    + optional (upTo 6 groupColon * group) * gap

/-- A character of an address of a later version. -/
def laterCharacter : Language Char := unreserved + subDelimiter + mark ':'

/-- What follows the mark of an address of a later version: a version, and behind a point the
address. -/
def laterVersion : Language Char :=
  hexDigit * hexDigit∗ * mark '.' * (laterCharacter * laterCharacter∗)

def laterAddress : Language Char := anyOf "vV" * laterVersion

def literalHost : Language Char := mark '[' * (ipv6Address + laterAddress) * mark ']'

def registeredName : Language Char := (unreserved + percentEncoded + subDelimiter)∗

def host : Language Char := literalHost + ipv4Address + registeredName

def userInfo : Language Char := (unreserved + percentEncoded + subDelimiter + mark ':')∗

def port : Language Char := digit∗

def authority : Language Char :=
  optional (userInfo * mark '@') * host * optional (mark ':' * port)

-----------------------------------------------------------------------------------------
-- Paths
-----------------------------------------------------------------------------------------

def segment : Language Char := pathCharacter∗

/-- Segments with a slash in front of each of them. -/
def slashedSegments : Language Char := (mark '/' * segment)∗

/-- A segment that is not empty. -/
def firstSegment : Language Char := pathCharacter * pathCharacter∗

/-- A character of a path other than a colon. -/
def plainCharacter : Language Char := unreserved + percentEncoded + subDelimiter + mark '@'

/-- A segment that is not empty and has no colon. -/
def plainSegment : Language Char := plainCharacter * plainCharacter∗

def absolutePath : Language Char := mark '/' * optional (firstSegment * slashedSegments)

-----------------------------------------------------------------------------------------
-- References
-----------------------------------------------------------------------------------------

def scheme : Language Char := alpha * (alpha + digit + anyOf "+-.")∗

def query : Language Char := (pathCharacter + anyOf "/?")∗

def fragment : Language Char := (pathCharacter + anyOf "/?")∗

/-- A path that follows no authority: it is empty, or begins with a slash or with one of some
segments. -/
def pathFrom (first : Language Char)
    : Language Char :=
  absolutePath + first * slashedSegments + 1

/-- What may follow a scheme: an authority and its path, or a path alone. -/
def hierarchicalPart : Language Char :=
  mark '/' * mark '/' * authority * slashedSegments + pathFrom firstSegment

/-- What a relative reference is made of. The first segment of a path alone has no colon, which
would end a scheme otherwise. -/
def relativePart : Language Char :=
  mark '/' * mark '/' * authority * slashedSegments + pathFrom plainSegment

/-- A query and a fragment, both of which may be left out. -/
def ending : Language Char := optional (mark '?' * query) * optional (mark '#' * fragment)

/-- The references to resources, absolute or relative. -/
def uriReference : Language Char :=
  scheme * mark ':' * hierarchicalPart * ending + relativePart * ending

-----------------------------------------------------------------------------------------
-- Membership
-----------------------------------------------------------------------------------------

variable {l m : Language Char} {holds other : Char → Prop} {c : Char} {cs rest : List Char}

@[simp]
theorem mem_oneOf
    : cs ∈ oneOf holds ↔ ∃ c, holds c ∧ cs = [c] :=
  Iff.rfl

theorem mem_mark
    : cs ∈ mark c ↔ cs = [c] := by
  simp [mark]

/-- Alternatives of one character each are one condition on a character. -/
theorem oneOf_add
    : oneOf holds + oneOf other = oneOf fun c => holds c ∨ other c := by
  ext cs
  simp only [Language.mem_add, mem_oneOf, or_and_right, exists_or]

/-- Conditions that hold of the same characters make one language. -/
theorem oneOf_congr (same : ∀ c, holds c ↔ other c)
    : oneOf holds = oneOf other :=
  congrArg oneOf (funext fun c => propext (same c))

/-- A text begins with one of some characters, and the other language has what follows. -/
theorem mem_oneOf_mul
    : cs ∈ oneOf holds * l ↔ ∃ c rest, holds c ∧ rest ∈ l ∧ cs = c :: rest := by
  simp only [Language.mem_mul, mem_oneOf]
  constructor
  · rintro ⟨_, ⟨c, here, rfl⟩, rest, later, rfl⟩
    exact ⟨c, rest, here, later, rfl⟩
  · rintro ⟨c, rest, here, later, rfl⟩
    exact ⟨[c], ⟨c, here, rfl⟩, rest, later, rfl⟩

theorem nil_notMem_oneOf
    : [] ∉ oneOf holds := by
  simp

theorem cons_mem_oneOf
    : c :: rest ∈ oneOf holds ↔ holds c ∧ rest = [] := by
  rw [mem_oneOf]
  grind

theorem nil_notMem_oneOf_mul
    : [] ∉ oneOf holds * l := by
  simp [mem_oneOf_mul]

theorem cons_mem_oneOf_mul
    : c :: rest ∈ oneOf holds * l ↔ holds c ∧ rest ∈ l := by
  rw [mem_oneOf_mul]
  grind

theorem mem_mark_mul
    : cs ∈ mark c * l ↔ ∃ rest ∈ l, cs = c :: rest := by
  rw [mark, mem_oneOf_mul]
  simp

/-- A mark parts what two languages have. -/
theorem mem_mul_mark_mul
    : cs ∈ l * (mark c * m) ↔ ∃ before ∈ l, ∃ behind ∈ m, cs = before ++ c :: behind := by
  rw [Language.mem_mul]
  simp only [mem_mark_mul]
  grind

theorem mem_mul_mark
    : cs ∈ l * mark c ↔ ∃ before ∈ l, cs = before ++ [c] := by
  simp only [Language.mem_mul, mem_mark]
  grind

/-- Characters in a number are all that a condition holds of. -/
theorem mem_oneOf_pow {n : Nat}
    : cs ∈ oneOf holds ^ n ↔ cs.length = n ∧ ∀ c ∈ cs, holds c := by
  induction n generalizing cs with
  | zero => simp +contextual [List.length_eq_zero_iff]
  | succ n ih =>
      rw [pow_succ', mem_oneOf_mul]
      simp only [ih]
      cases cs with
      | nil => simp
      | cons c rest =>
          simp only [List.cons.injEq, List.length_cons, Nat.add_right_cancel_iff,
            List.forall_mem_cons]
          grind

/-- Characters in any number are all that a condition holds of. -/
theorem mem_oneOf_kstar
    : cs ∈ (oneOf holds)∗ ↔ ∀ c ∈ cs, holds c := by
  rw [Language.kstar_eq_iSup_pow, Language.mem_iSup]
  simp [mem_oneOf_pow]

theorem mem_optional
    : cs ∈ optional l ↔ cs = [] ∨ cs ∈ l :=
  Iff.rfl

theorem mem_upTo {n : Nat}
    : cs ∈ upTo n l ↔ ∃ k ≤ n, cs ∈ l ^ k :=
  Iff.rfl

theorem mem_upTo_oneOf {n : Nat}
    : cs ∈ upTo n (oneOf holds) ↔ cs.length ≤ n ∧ ∀ c ∈ cs, holds c := by
  simp only [mem_upTo, mem_oneOf_pow]
  grind

/-- Repetitions of alternatives are repetitions of the first one, with the second one and further
such repetitions behind them in turn. -/
theorem kstar_add_le (l m : Language Char)
    : (l + m)∗ ≤ l∗ * (m * l∗)∗ := by
  refine kstar_le_of_mul_le_right (one_le_mul one_le_kstar one_le_kstar) ?_
  rw [add_mul]
  refine add_le ?_ ?_
  · rw [← mul_assoc]
    exact mul_le_mul_left mul_kstar_le_kstar _
  · calc
      m * (l∗ * (m * l∗)∗) = m * l∗ * (m * l∗)∗ := (mul_assoc _ _ _).symm
      _ ≤ (m * l∗)∗ := mul_kstar_le_kstar
      _ = 1 * (m * l∗)∗ := (one_mul _).symm
      _ ≤ l∗ * (m * l∗)∗ := mul_le_mul_left one_le_kstar _

end Assay.Format.Grammar
