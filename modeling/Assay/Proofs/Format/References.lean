import Assay.Proofs.Format.Characters
import Assay.Proofs.Format.Passing
import Mathlib

/-! The texts that pass the format of references, read by their parts: which characters each part
may have, and what a bracket may enclose.
-/

namespace Assay.Format.Grammar
open Computability Number

variable {cs rest : List Char} {literal : Language Char}

-----------------------------------------------------------------------------------------
-- Hosts in brackets
-----------------------------------------------------------------------------------------

theorem mem_oneOf_mul_kstar {holds : Char → Prop}
    : cs ∈ oneOf holds * (oneOf holds)∗ ↔ cs ≠ [] ∧ ∀ c ∈ cs, holds c := by
  cases cs with
  | nil => simp [nil_notMem_oneOf_mul]
  | cons c rest => simp [cons_mem_oneOf_mul, mem_oneOf_kstar]

theorem laterCharacter_eq
    : laterCharacter = oneOf fun c => (isUnreserved c ∨ isSubDelimiter c) ∨ c = ':' := by
  simp only [laterCharacter, unreserved_eq, subDelimiter_eq, mark, oneOf_add]

theorem mem_laterVersion
    : cs ∈ laterVersion
      ↔ ∃ version address,
          (version ≠ [] ∧ ∀ c ∈ version, isHexDigit c)
          ∧ (address ≠ [] ∧ ∀ c ∈ address, (isUnreserved c ∨ isSubDelimiter c) ∨ c = ':')
          ∧ cs = version ++ '.' :: address := by
  rw [laterVersion, mul_assoc (hexDigit * hexDigit∗), mem_mul_mark_mul, hexDigit_eq,
    laterCharacter_eq]
  simp only [mem_oneOf_mul_kstar]
  grind

/-- The check of addresses of later versions takes their mark in one case only. -/
theorem isLaterAddress_iff
    : isLaterAddress cs ↔ cs ∈ mark 'v' * laterVersion := by
  simp only [mem_mark_mul, mem_laterVersion]
  constructor
  · intro later
    unfold isLaterAddress at later
    split at later
    · rename_i rest
      rcases parted : splitBefore (· == '.') rest with ⟨version, behind⟩
      obtain ⟨rfl, -, point⟩ := splitBefore_eq_iff.mp parted
      simp only [parted, Bool.and_eq_true, Bool.not_eq_true', List.isEmpty_eq_false_iff,
        List.all_eq_true, decide_eq_true_eq, Bool.or_eq_true, beq_iff_eq] at later
      obtain ⟨⟨⟨some, hex⟩, long⟩, all⟩ := later
      match behind with
      | c :: d :: address =>
          obtain rfl : c = '.' := by simpa using point c rfl
          exact ⟨_, ⟨version, d :: address, ⟨some, hex⟩, ⟨List.cons_ne_nil _ _, all⟩, rfl⟩, rfl⟩
    · nomatch later
  · rintro ⟨_, ⟨version, address, ⟨some, hex⟩, ⟨present, all⟩, rfl⟩, rfl⟩
    have parted
        : splitBefore (· == '.') (version ++ '.' :: address) = (version, '.' :: address) := by
      refine splitBefore_eq_iff.mpr ⟨rfl, fun c member => ?_, by simp⟩
      rw [beq_iff_eq]
      rintro rfl
      exact absurd (hex _ member) (by decide)
    have long : 2 ≤ address.length + 1 := by
      have := List.length_pos_of_ne_nil present
      omega
    simp only [isLaterAddress, parted, Bool.and_eq_true, Bool.not_eq_true',
      List.isEmpty_eq_false_iff, List.all_eq_true, decide_eq_true_eq, Bool.or_eq_true, beq_iff_eq]
    exact ⟨⟨⟨some, hex⟩, long⟩, all⟩

/-- An authority whose host stands in brackets, what they enclose being left open: perhaps a user
and an at sign before the host, and a colon and digits behind it. -/
def bracketedAuthority (literal : Language Char)
    : Language Char :=
  optional ((oneOf (· ∉ ['@', '[', ']']))∗ * mark '@')
    * (mark '[' * literal * mark ']')
    * optional (mark ':' * port)

/-- What the check of hosts takes in brackets. -/
def checkedLiteral : Language Char := ipv6Address + mark 'v' * laterVersion

theorem mem_checkedLiteral
    : cs ∈ checkedLiteral ↔ isLiteralAddress cs := by
  simp only [checkedLiteral, isLiteralAddress, Language.mem_add, mem_ipv6Address,
    isLaterAddress_iff, Bool.or_eq_true]

/-- The grammar takes the mark of a later version in either case. -/
theorem checkedLiteral_le
    : checkedLiteral ≤ ipv6Address + laterAddress := by
  refine add_le_add_right (mul_le_mul_left ?_ laterVersion) ipv6Address
  rintro _ ⟨_, rfl, rfl⟩
  exact ⟨'v', by decide, rfl⟩

theorem notMem_of_mem_checkedLiteral (member : cs ∈ checkedLiteral)
    : ']' ∉ cs := by
  rw [checkedLiteral, Language.mem_add] at member
  rcases member with address | later
  · intro bracket
    rcases forall_mem_of_isGroupedAddress (mem_ipv6Address.mp address) _ bracket with
      hex | same | same
    · exact absurd hex (by decide)
    · exact absurd same (by decide)
    · exact absurd same (by decide)
  · simp only [mem_mark_mul, mem_laterVersion] at later
    obtain ⟨_, ⟨version, address, ⟨-, hex⟩, ⟨-, all⟩, rfl⟩, rfl⟩ := later
    simp only [List.mem_cons, List.mem_append, not_or]
    exact ⟨by decide, fun member => absurd (hex _ member) (by decide), by decide,
      fun member => absurd (all _ member) (by decide)⟩

theorem mem_optional_port
    : cs ∈ optional (mark ':' * port)
      ↔ cs = [] ∨ ∃ digits, (∀ digit ∈ digits, isAsciiDigit digit) ∧ cs = ':' :: digits := by
  simp only [mem_optional, mem_mark_mul, port, digit_eq, mem_oneOf_kstar]

theorem mem_bracketed {l m : Language Char}
    : cs ∈ mark '[' * l * mark ']' * m
      ↔ ∃ address ∈ l, ∃ behind ∈ m, cs = '[' :: (address ++ ']' :: behind) := by
  rw [mul_assoc, mul_assoc, mem_mark_mul]
  simp only [mem_mul_mark_mul]
  grind

theorem isLiteralHost_iff
    : isLiteralHost cs
      ↔ cs ∈ mark '[' * checkedLiteral * mark ']' * optional (mark ':' * port) := by
  simp only [mem_bracketed, mem_checkedLiteral, mem_optional_port]
  constructor
  · intro host
    unfold isLiteralHost at host
    split at host
    · rename_i rest
      rcases parted : splitBefore (· == ']') rest with ⟨address, behind⟩
      obtain ⟨rfl, -, closed⟩ := splitBefore_eq_iff.mp parted
      simp only [parted, Bool.and_eq_true] at host
      obtain ⟨literal, port⟩ := host
      cases behind with
      | nil => nomatch port
      | cons c behind =>
          obtain rfl : c = ']' := by simpa using closed c rfl
          refine ⟨address, literal, behind, ?_, rfl⟩
          cases behind with
          | nil => exact Or.inl rfl
          | cons colon digits =>
              simp only [List.drop_succ_cons, List.drop_zero, Bool.and_eq_true, beq_iff_eq,
                List.all_eq_true] at port
              obtain ⟨rfl, digits⟩ := port
              exact Or.inr ⟨_, digits, rfl⟩
    · nomatch host
  · rintro ⟨address, literal, behind, port, rfl⟩
    have closed := notMem_of_mem_checkedLiteral (mem_checkedLiteral.mpr literal)
    have parted
        : splitBefore (· == ']') (address ++ ']' :: behind) = (address, ']' :: behind) := by
      refine splitBefore_eq_iff.mpr ⟨rfl, fun c member => ?_, by simp⟩
      rw [beq_iff_eq]
      rintro rfl
      exact closed member
    rcases port with rfl | ⟨digits, all, rfl⟩
    · simp [isLiteralHost, parted, literal]
    · simp only [isLiteralHost, parted, literal]
      simpa using all

/-- A character that may stand in the name of a user before a host in brackets. -/
theorem isUserEnd_iff {c : Char}
    : (c == '@' || isBracket c) ↔ c ∈ ['@', '[', ']'] := by
  simp [isBracket]

theorem isLiteralAuthority_iff
    : isLiteralAuthority cs ↔ cs ∈ bracketedAuthority checkedLiteral := by
  rw [bracketedAuthority, mul_assoc, Language.mem_mul]
  simp only [← isLiteralHost_iff, mem_optional, mem_mul_mark, mem_oneOf_kstar]
  constructor
  · intro authority
    unfold isLiteralAuthority at authority
    rcases parted : splitBefore (fun c => c == '@' || isBracket c) cs with ⟨user, rest⟩
    obtain ⟨rfl, noEnd, -⟩ := splitBefore_eq_iff.mp parted
    simp only [isUserEnd_iff] at noEnd
    simp only [parted] at authority
    split at authority
    · rename_i named
      exact ⟨user ++ ['@'], Or.inr ⟨user, noEnd, rfl⟩, named, authority, by simp⟩
    · obtain ⟨none, named⟩ := Bool.and_eq_true_iff.mp authority
      obtain rfl := List.isEmpty_iff.mp none
      exact ⟨[], Or.inl rfl, rest, named, rfl⟩
  · rintro ⟨_, rfl | ⟨name, noEnd, rfl⟩, behind, isHost, rfl⟩
    · obtain ⟨address, -, port, -, rfl⟩ := mem_bracketed.mp (isLiteralHost_iff.mp isHost)
      simpa [isLiteralAuthority, splitBefore, isBracket] using isHost
    · have parted
          : splitBefore (fun c => c == '@' || isBracket c) (name ++ '@' :: behind)
            = (name, '@' :: behind) :=
        splitBefore_eq_iff.mpr
          ⟨rfl, fun c member => by simpa only [isUserEnd_iff] using noEnd c member, by simp⟩
      simp [isLiteralAuthority, parted, isHost]

theorem isScheme_iff
    : isScheme cs ↔ cs ∈ scheme := by
  have behind
      : alpha + digit + anyOf "+-."
        = oneOf fun c => c.isAlphanum || "+.-".toList.contains c := by
    have marks (c : Char) : c ∈ "+-.".toList ↔ c ∈ "+.-".toList := by
      simp [or_comm]
    simp only [alpha_eq, digit, range, anyOf, oneOf_add, marks, Bool.or_eq_true, isAlphanum_iff,
      List.contains_iff_mem]
  rw [scheme, behind, alpha_eq]
  cases cs with
  | nil => simp [isScheme, nil_notMem_oneOf_mul]
  | cons c rest =>
      simp only [isScheme, cons_mem_oneOf_mul, mem_oneOf_kstar, Bool.and_eq_true,
        List.all_eq_true]

end Assay.Format.Grammar

namespace Assay.Format
open Computability Grammar

variable {cs : List Char} {literal : Language Char} {parts : UriParts}

/-- Parts that are put where they may stand. Brackets are found in authorities alone; what they may
enclose is left open. -/
structure UriParts.Placed (literal : Language Char) (parts : UriParts)
    : Prop where
  separated : parts.Separated
  scheme : ∀ scheme ∈ parts.scheme, scheme ∈ Grammar.scheme
  authority
    : ∀ authority ∈ parts.authority,
        (∀ c ∈ authority, ¬isBracket c) ∨ authority ∈ bracketedAuthority literal
  path : ∀ c ∈ parts.path, ¬isBracket c
  query : ∀ query ∈ parts.query, ∀ c ∈ query, ¬isBracket c
  fragment : ∀ fragment ∈ parts.fragment, ∀ c ∈ fragment, c ≠ '#' ∧ ¬isBracket c

/-- A text that reads as a reference: it has the characters and escapes of references, and is made
up of parts where they may stand, of which the authority goes on to the path. -/
def ReadsAsReference (literal : Language Char) (cs : List Char)
    : Prop :=
  cs ∈ uriCharacter∗
    ∧ ∃ parts : UriParts, cs = parts.text ∧ parts.Placed literal ∧ parts.EndsAuthority

theorem isAuthority_iff
    : isAuthority cs ↔ (∀ c ∈ cs, ¬isBracket c) ∨ cs ∈ bracketedAuthority checkedLiteral := by
  simp [isAuthority, isLiteralAuthority_iff]

/-- The parts that a text is taken apart into keep clear of marks; the check is about the rest of
what puts them where they may stand. -/
theorem areWellFormed_iff (separated : parts.Separated)
    : parts.areWellFormed ↔ parts.Placed checkedLiteral := by
  simp only [UriParts.areWellFormed, Bool.and_eq_true, Option.all_eq_true, isScheme_iff,
    isAuthority_iff, Bool.not_eq_true', List.any_eq_false, Bool.or_eq_true, beq_iff_eq, not_or]
  constructor
  · rintro ⟨⟨⟨⟨scheme, authority⟩, path⟩, query⟩, fragment⟩
    exact ⟨separated, scheme, authority, path, query, fragment⟩
  · rintro ⟨-, scheme, authority, path, query, fragment⟩
    exact ⟨⟨⟨⟨scheme, authority⟩, path⟩, query⟩, fragment⟩

theorem isUri_iff
    : isUri cs ↔ ReadsAsReference checkedLiteral cs := by
  rw [isUri, Bool.and_eq_true, ReadsAsReference, mem_uriCharacter_kstar]
  refine and_congr_right' ⟨fun wellFormed => ?_, ?_⟩
  · obtain ⟨whole, separated, ends⟩ := UriParts.ofText_eq_iff.mp (Eq.refl (UriParts.ofText cs))
    exact ⟨_, whole, (areWellFormed_iff separated).mp wellFormed, ends⟩
  · rintro ⟨parts, whole, placed, ends⟩
    rw [UriParts.ofText_eq_iff.mpr ⟨whole, placed.separated, ends⟩,
      areWellFormed_iff placed.separated]
    exact placed

theorem ReadsAsReference.mono {other : Language Char} (wider : literal ≤ other)
    (reads : ReadsAsReference literal cs)
    : ReadsAsReference other cs := by
  obtain ⟨characters, parts, whole, placed, ends⟩ := reads
  refine ⟨characters, parts, whole, { placed with authority := fun authority same => ?_ }, ends⟩
  refine (placed.authority authority same).imp_right fun bracketed => ?_
  have le : bracketedAuthority literal ≤ bracketedAuthority other := by
    unfold bracketedAuthority
    gcongr
  exact le bracketed

/-- A text that passes the format of references is made up of parts where they may stand. Brackets
enclose an address that the grammar derives, be it one of groups or one of a later version. Whether
the mark of a later version may be a capital letter is left open. -/
theorem uri_passes_between_readings (s : String)
    : (ReadsAsReference (ipv6Address + mark 'v' * laterVersion) s.toList
        → Passes FormatRegistry.uri s)
      ∧ (Passes FormatRegistry.uri s
        → ReadsAsReference (ipv6Address + laterAddress) s.toList) := by
  rw [passes_uri_iff, isUri_iff]
  exact ⟨id, ReadsAsReference.mono checkedLiteral_le⟩

theorem host_in_brackets_reads_and_passes
    : ReadsAsReference (ipv6Address + mark 'v' * laterVersion) "//u@[::1]:8".toList
      ∧ Passes FormatRegistry.uri "//u@[::1]:8"
      ∧ ReadsAsReference (ipv6Address + laterAddress) "//u@[::1]:8".toList := by
  have reads := isUri_iff.mp (by decide : isUri "//u@[::1]:8".toList)
  obtain ⟨passes, back⟩ := uri_passes_between_readings "//u@[::1]:8"
  exact ⟨reads, passes reads, back (passes reads)⟩

/-- What brackets would enclose if an address was told by its characters alone. -/
def looseLiteral : Language Char :=
  oneOf IsAddressCharacter * (oneOf IsAddressCharacter)∗ + laterAddress

/-- A colon in brackets has the characters of an address, but does not pass. -/
theorem not_passes_colon_in_brackets
    : ReadsAsReference looseLiteral "//[:]".toList ∧ ¬Passes FormatRegistry.uri "//[:]" := by
  constructor
  · refine ⟨mem_uriCharacter_kstar.mpr (by decide), ⟨none, some "[:]".toList, [], none, none⟩, rfl,
      ?_, fun _ => Or.inl rfl⟩
    have colon : [':'] ∈ looseLiteral :=
      Or.inl (mem_oneOf_mul_kstar.mpr ⟨by simp, by simp [IsAddressCharacter]⟩)
    have bracketed : "[:]".toList ∈ bracketedAuthority looseLiteral := by
      rw [bracketedAuthority, mul_assoc, Language.mem_mul]
      exact ⟨[], Or.inl rfl, _, mem_bracketed.mpr ⟨[':'], colon, [], Or.inl rfl, rfl⟩, rfl⟩
    exact
      { separated :=
          { scheme := nofun
            authority := by simpa using by decide
            path := nofun
            query := nofun
            withoutAuthority := nofun
            withoutScheme := nofun }
        scheme := nofun
        authority := fun _ same => Option.some.inj same ▸ Or.inr bracketed
        path := nofun
        query := nofun
        fragment := nofun }
  · rw [passes_uri_iff]
    decide

end Assay.Format
