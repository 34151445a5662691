import Assay.Format.Uri
import Assay.Proofs.Format.Grammar
import Mathlib

/-! Numeric addresses of hosts. The checks of groups, of decimal numbers and of whole addresses read
a text by parting it at its marks; they hold of the texts that the grammar derives.
-/

namespace Assay.Format.Grammar
open Computability Number Text

variable {l : Language Char} {c : Char} {cs rest : List Char}

-----------------------------------------------------------------------------------------
-- Characters
-----------------------------------------------------------------------------------------

theorem digit_eq
    : digit = oneOf (isAsciiDigit ·) :=
  oneOf_congr fun c => by simp [isAsciiDigit]

theorem isHexDigit_iff
    : isHexDigit c ↔ ('0' ≤ c ∧ c ≤ '9' ∨ 'A' ≤ c ∧ c ≤ 'F') ∨ 'a' ≤ c ∧ c ≤ 'f' := by
  simp only [isHexDigit, hexValue?, Bool.and_eq_true, decide_eq_true_eq]
  grind

theorem hexDigit_eq
    : hexDigit = oneOf (isHexDigit ·) := by
  simp only [hexDigit, digit, range, oneOf_add, isHexDigit_iff]

/-- Characters are in the order of their numbers. -/
theorem le_iff_toNat {a b : Char}
    : a ≤ b ↔ a.toNat ≤ b.toNat :=
  Iff.rfl

-----------------------------------------------------------------------------------------
-- Four decimal numbers
-----------------------------------------------------------------------------------------

theorem partsBetween_eq (sep : Char) (cs : List Char)
    : partsBetween sep cs = cs.splitOn sep := by
  induction cs with
  | nil => rfl
  | cons c rest ih =>
      rw [partsBetween, ih, List.splitOn_cons_eq_if_modifyHead]
      cases parts : rest.splitOn sep with
      | nil => exact absurd parts (List.splitOn_ne_nil sep rest)
      | cons part others => simp

/-- A text is put together of its parts. -/
theorem intercalate_partsBetween (sep : Char) (cs : List Char)
    : [sep].intercalate (partsBetween sep cs) = cs := by
  rw [partsBetween_eq, List.intercalate_splitOn]

/-- The rule has one alternative for each number of digits, and more where three digits could write
more than 255. -/
theorem mem_octet
    : cs ∈ octet ↔ isOctet cs := by
  have same {a b : Char} : a = b ↔ a.toNat = b.toNat := Char.toNat_inj.symm
  simp only [octet, mark, digit, range, mul_assoc, isOctet, Language.mem_add]
  rcases cs with _ | ⟨a, _ | ⟨b, _ | ⟨c, _ | ⟨d, rest⟩⟩⟩⟩
  · simp [nil_notMem_oneOf_mul]
  · simp only [cons_mem_oneOf, cons_mem_oneOf_mul, nil_notMem_oneOf_mul, nil_notMem_oneOf,
      le_iff_toNat]
    simp [isAsciiDigit, digitsValue, le_iff_toNat, same]
    omega
  · simp only [cons_mem_oneOf, cons_mem_oneOf_mul, nil_notMem_oneOf, le_iff_toNat]
    simp [isAsciiDigit, digitsValue, le_iff_toNat, same]
    omega
  · simp only [cons_mem_oneOf, cons_mem_oneOf_mul, le_iff_toNat]
    simp [isAsciiDigit, digitsValue, le_iff_toNat, same]
    omega
  · simp [cons_mem_oneOf_mul]

/-- A decimal number has neither a colon nor a point. -/
theorem notMem_of_isOctet (octet : isOctet cs)
    : ':' ∉ cs ∧ '.' ∉ cs := by
  simp only [isOctet, Bool.and_eq_true, List.all_eq_true] at octet
  have digits := octet.1.1.2
  exact ⟨fun member => absurd (digits _ member) (by decide),
    fun member => absurd (digits _ member) (by decide)⟩

theorem mem_ipv4Address
    : cs ∈ ipv4Address ↔ isDottedQuad cs := by
  simp only [ipv4Address, mul_assoc, mem_mul_mark_mul, mem_octet]
  constructor
  · rintro ⟨a, isA, _, ⟨b, isB, _, ⟨c, isC, d, isD, rfl⟩, rfl⟩, rfl⟩
    rw [isDottedQuad, partsBetween_eq,
      List.splitOn_append_cons_self_of_not_mem (notMem_of_isOctet isA).2,
      List.splitOn_append_cons_self_of_not_mem (notMem_of_isOctet isB).2,
      List.splitOn_append_cons_self_of_not_mem (notMem_of_isOctet isC).2,
      List.splitOn_eq_singleton (notMem_of_isOctet isD).2]
    simp [isA, isB, isC, isD]
  · intro quad
    simp only [isDottedQuad, Bool.and_eq_true, beq_iff_eq] at quad
    obtain ⟨four, octets⟩ := quad
    obtain ⟨a, b, c, d, parts⟩ := List.length_eq_four.mp four
    have whole := intercalate_partsBetween '.' cs
    rw [parts] at octets whole
    obtain ⟨isA, isB, isC, isD⟩ : isOctet a ∧ isOctet b ∧ isOctet c ∧ isOctet d := by
      simpa using octets
    exact ⟨a, isA, _, ⟨b, isB, _, ⟨c, isC, d, isD, rfl⟩, rfl⟩,
      by simpa [List.intercalate] using whole.symm⟩

/-- Four decimal numbers have points between them, but no colon. -/
theorem marks_of_isDottedQuad (quad : isDottedQuad cs)
    : ':' ∉ cs ∧ '.' ∈ cs := by
  simp only [← mem_ipv4Address, ipv4Address, mul_assoc, mem_mul_mark_mul, mem_octet] at quad
  obtain ⟨a, isA, _, ⟨b, isB, _, ⟨c, isC, d, isD, rfl⟩, rfl⟩, rfl⟩ := quad
  simp [notMem_of_isOctet, isA, isB, isC, isD]

-----------------------------------------------------------------------------------------
-- Groups
-----------------------------------------------------------------------------------------

theorem mem_group
    : cs ∈ group ↔ isGroup cs := by
  rw [group, hexDigit_eq]
  cases cs with
  | nil => simp [nil_notMem_oneOf_mul, isGroup]
  | cons c rest =>
      simp only [cons_mem_oneOf_mul, mem_upTo_oneOf, isGroup, List.isEmpty_cons, List.length_cons,
        List.all_cons, Bool.not_false, Bool.true_and, Bool.and_eq_true, decide_eq_true_eq,
        List.all_eq_true]
      grind

/-- A group has neither a colon nor a point. -/
theorem notMem_of_isGroup (group : isGroup cs)
    : ':' ∉ cs ∧ '.' ∉ cs := by
  simp only [isGroup, Bool.and_eq_true, List.all_eq_true] at group
  exact ⟨fun member => absurd (group.2 _ member) (by decide),
    fun member => absurd (group.2 _ member) (by decide)⟩

/-- Groups in a number with colons between them. Where `dotted` allows it, four decimal numbers may
stand for the last two. -/
inductive Groups (dotted : Bool)
    : Nat → List Char → Prop
  | one {cs : List Char} (group : isGroup cs)
      : Groups dotted 1 cs
  | quad {cs : List Char} (allowed : dotted) (quad : isDottedQuad cs)
      : Groups dotted 2 cs
  | more {n : Nat} {first rest : List Char} (group : isGroup first) (later : Groups dotted n rest)
      : Groups dotted (n + 1) (first ++ ':' :: rest)

variable {dotted : Bool} {n : Nat}

/-- The characters of addresses. -/
def IsAddressCharacter (c : Char)
    : Prop :=
  isHexDigit c ∨ c = ':' ∨ c = '.'

theorem forall_mem_of_isDottedQuad (quad : isDottedQuad cs)
    : ∀ c ∈ cs, IsAddressCharacter c := by
  have ofOctet {part : List Char} (octet : isOctet part) : ∀ c ∈ part, IsAddressCharacter c := by
    simp only [isOctet, Bool.and_eq_true, List.all_eq_true] at octet
    intro c member
    have digit := octet.1.1.2 c member
    simp only [isAsciiDigit, Bool.and_eq_true, decide_eq_true_eq] at digit
    exact Or.inl (isHexDigit_iff.mpr (Or.inl (Or.inl digit)))
  have point : IsAddressCharacter '.' := Or.inr (Or.inr rfl)
  simp only [← mem_ipv4Address, ipv4Address, mul_assoc, mem_mul_mark_mul, mem_octet] at quad
  obtain ⟨a, isA, _, ⟨b, isB, _, ⟨c, isC, d, isD, rfl⟩, rfl⟩, rfl⟩ := quad
  simp only [List.forall_mem_append, List.forall_mem_cons]
  exact ⟨ofOctet isA, point, ofOctet isB, point, ofOctet isC, point, ofOctet isD⟩

theorem Groups.forall_mem (groups : Groups dotted n cs)
    : ∀ c ∈ cs, IsAddressCharacter c := by
  have ofGroup {part : List Char} (group : isGroup part) : ∀ c ∈ part, IsAddressCharacter c := by
    simp only [isGroup, Bool.and_eq_true, List.all_eq_true] at group
    exact fun c member => Or.inl (group.2 c member)
  induction groups with
  | one group => exact ofGroup group
  | quad allowed quad => exact forall_mem_of_isDottedQuad quad
  | more group later ih =>
      rw [List.forall_mem_append, List.forall_mem_cons]
      exact ⟨ofGroup group, Or.inr (Or.inl rfl), ih⟩

theorem Groups.groupCount?_eq (groups : Groups dotted n cs)
    : groupCount? dotted (partsBetween ':' cs) = some n := by
  rw [partsBetween_eq]
  induction groups with
  | one group => simp [List.splitOn_eq_singleton (notMem_of_isGroup group).1, groupCount?, group]
  | @quad cs allowed quad =>
      obtain ⟨noColon, point⟩ := marks_of_isDottedQuad quad
      have noGroup : ¬isGroup cs := fun group => (notMem_of_isGroup group).2 point
      simp [List.splitOn_eq_singleton noColon, groupCount?, noGroup, allowed, quad]
  | more group later ih =>
      rw [List.splitOn_append_cons_self_of_not_mem (notMem_of_isGroup group).1, groupCount?,
        if_pos group, ih, Option.map_some]
      exact fun alone => List.splitOn_ne_nil _ _ alone

theorem groups_of_groupCount? {parts : List (List Char)} (present : parts ≠ [])
    (counted : groupCount? dotted parts = some n)
    : Groups dotted n ([':'].intercalate parts) := by
  fun_induction groupCount? dotted parts generalizing n with
  | case1 => exact absurd rfl present
  | case2 part group =>
      obtain rfl := Option.some.inj counted
      simpa [List.intercalate] using Groups.one group
  | case3 part _ quad =>
      obtain rfl := Option.some.inj counted
      obtain ⟨allowed, quad⟩ := Bool.and_eq_true_iff.mp quad
      simpa [List.intercalate] using Groups.quad allowed quad
  | case4 => nomatch counted
  | case5 part rest several group ih =>
      obtain ⟨k, later, rfl⟩ := Option.map_eq_some_iff.mp counted
      cases rest with
      | nil => exact absurd rfl several
      | cons other others =>
          simpa [List.intercalate] using Groups.more group (ih (List.cons_ne_nil _ _) later)
  | case6 => nomatch counted

/-- The number of groups in a text, none in the empty one. -/
theorem groupsIn?_eq_some_iff
    : groupsIn? dotted cs = some n ↔ n = 0 ∧ cs = [] ∨ Groups dotted n cs := by
  have counted : groupCount? dotted (partsBetween ':' cs) = some n ↔ Groups dotted n cs := by
    refine ⟨fun counted => ?_, Groups.groupCount?_eq⟩
    have groups := groups_of_groupCount? (by simp [partsBetween_eq, List.splitOn_ne_nil]) counted
    rwa [intercalate_partsBetween] at groups
  cases cs with
  | nil =>
      have none : ¬Groups dotted n [] := by
        rw [← counted]
        simp [partsBetween, groupCount?, isGroup, isDottedQuad]
      simp [groupsIn?, none, eq_comm]
  | cons c rest => simp [groupsIn?, counted]

theorem mem_groupColon_pow_succ_mul {k : Nat}
    : cs ∈ groupColon ^ (k + 1) * l
      ↔ ∃ first, isGroup first ∧ ∃ rest ∈ groupColon ^ k * l, cs = first ++ ':' :: rest := by
  rw [pow_succ', mul_assoc, groupColon, mul_assoc, mem_mul_mark_mul]
  simp only [mem_group]

theorem groups_false_iff
    : Groups false n cs ↔ ∃ k, n = k + 1 ∧ cs ∈ groupColon ^ k * group := by
  constructor
  · intro groups
    induction groups with
    | one group => exact ⟨0, rfl, by simpa [mem_group] using group⟩
    | quad allowed => nomatch allowed
    | more group later ih =>
        obtain ⟨k, rfl, member⟩ := ih
        exact ⟨k + 1, rfl, mem_groupColon_pow_succ_mul.mpr ⟨_, group, _, member, rfl⟩⟩
  · rintro ⟨k, rfl, member⟩
    induction k generalizing cs with
    | zero => exact .one (mem_group.mp (by simpa using member))
    | succ k ih =>
        obtain ⟨first, group, rest, later, rfl⟩ := mem_groupColon_pow_succ_mul.mp member
        exact .more group (ih later)

theorem mem_lastGroups
    : cs ∈ lastGroups
      ↔ (∃ first, isGroup first ∧ ∃ last, isGroup last ∧ cs = first ++ ':' :: last)
        ∨ isDottedQuad cs := by
  simp only [lastGroups, Language.mem_add, mul_assoc, mem_mul_mark_mul, mem_group, mem_ipv4Address]

theorem groups_true_iff
    : Groups true n cs
      ↔ n = 1 ∧ cs ∈ group ∨ ∃ k, n = k + 2 ∧ cs ∈ groupColon ^ k * lastGroups := by
  constructor
  · intro groups
    induction groups with
    | one group => exact Or.inl ⟨rfl, mem_group.mpr group⟩
    | quad allowed quad =>
        exact Or.inr ⟨0, rfl, by simpa using mem_lastGroups.mpr (Or.inr quad)⟩
    | more group later ih =>
        rcases ih with ⟨rfl, last⟩ | ⟨k, rfl, member⟩
        · have two := mem_lastGroups.mpr (Or.inl ⟨_, group, _, mem_group.mp last, rfl⟩)
          exact Or.inr ⟨0, rfl, by simpa using two⟩
        · exact Or.inr
            ⟨k + 1, rfl, mem_groupColon_pow_succ_mul.mpr ⟨_, group, _, member, rfl⟩⟩
  · rintro (⟨rfl, member⟩ | ⟨k, rfl, member⟩)
    · exact .one (mem_group.mp member)
    · induction k generalizing cs with
      | zero =>
          rw [pow_zero, one_mul, mem_lastGroups] at member
          rcases member with ⟨first, group, last, lastGroup, rfl⟩ | quad
          · exact .more group (.one lastGroup)
          · exact .quad rfl quad
      | succ k ih =>
          obtain ⟨first, group, rest, later, rfl⟩ := mem_groupColon_pow_succ_mul.mp member
          exact .more group (ih later)

-----------------------------------------------------------------------------------------
-- Groups left out
-----------------------------------------------------------------------------------------

theorem eq_of_atGap?_eq_some {before behind : List Char}
    (parted : atGap? cs = some (before, behind))
    : cs = before ++ ':' :: ':' :: behind := by
  fun_induction atGap? cs generalizing before with
  | case1 => nomatch parted
  | case2 rest =>
      obtain ⟨rfl, rfl⟩ := Prod.mk.inj (Option.some.inj parted)
      rfl
  | case3 c rest _ ih =>
      obtain ⟨⟨front, _⟩, later, same⟩ := Option.map_eq_some_iff.mp parted
      obtain ⟨rfl, rfl⟩ := Prod.mk.inj same
      rw [ih later, List.cons_append]

/-- Characters other than a colon do not belong to a gap. -/
theorem atGap?_append_of_notMem {part : List Char} (without : ':' ∉ part)
    : atGap? (part ++ rest)
      = (atGap? rest).map fun (before, behind) => (part ++ before, behind) := by
  induction part with
  | nil => simp
  | cons c part ih =>
      rw [List.mem_cons, not_or] at without
      rw [List.cons_append, atGap?, ih without.2, Option.map_map]
      · rfl
      · exact fun _ colon _ => absurd colon.symm without.1

/-- A single colon does not belong to a gap. -/
theorem atGap?_colon_cons (other : c ≠ ':')
    : atGap? (':' :: c :: rest)
      = (atGap? (c :: rest)).map fun (before, behind) => (':' :: before, behind) := by
  rw [atGap?]
  exact fun _ _ second => absurd (List.cons.inj second).1 other

/-- No group begins with a colon. -/
theorem Groups.exists_cons (groups : Groups dotted n cs)
    : ∃ c rest, cs = c :: rest ∧ c ≠ ':' := by
  have first {part : List Char} (present : part ≠ []) (without : ':' ∉ part) (behind : List Char)
      : ∃ c rest, part ++ behind = c :: rest ∧ c ≠ ':' := by
    cases part with
    | nil => exact absurd rfl present
    | cons c part => exact ⟨c, part ++ behind, rfl, fun colon => without (by simp [colon])⟩
  cases groups with
  | one group =>
      simpa using first (by rintro rfl; nomatch group) (notMem_of_isGroup group).1 []
  | quad allowed quad =>
      simpa using first (by rintro rfl; nomatch quad) (marks_of_isDottedQuad quad).1 []
  | more group later => exact first (by rintro rfl; nomatch group) (notMem_of_isGroup group).1 _

/-- Groups hold no gap: the first one in a text that begins with them is the first one behind
them. -/
theorem Groups.atGap?_append (groups : Groups dotted n cs) (rest : List Char)
    : atGap? (cs ++ rest)
      = (atGap? rest).map fun (before, behind) => (cs ++ before, behind) := by
  induction groups with
  | one group => exact atGap?_append_of_notMem (notMem_of_isGroup group).1
  | quad allowed quad => exact atGap?_append_of_notMem (marks_of_isDottedQuad quad).1
  | @more n first later group groups ih =>
      obtain ⟨c, others, rfl, other⟩ := groups.exists_cons
      rw [List.cons_append] at ih
      rw [List.append_assoc, atGap?_append_of_notMem (notMem_of_isGroup group).1,
        List.cons_append, List.cons_append, atGap?_colon_cons other, ih, Option.map_map,
        Option.map_map]
      simp [Function.comp_def]

/-- An address has eight groups, or two colons stand for at least one that is left out. -/
theorem isGroupedAddress_iff
    : isGroupedAddress cs
      ↔ Groups true 8 cs
        ∨ ∃ before behind first last,
            cs = before ++ ':' :: ':' :: behind
            ∧ groupsIn? false before = some first
            ∧ groupsIn? true behind = some last
            ∧ first + last ≤ 7 := by
  constructor
  · intro address
    unfold isGroupedAddress at address
    split at address
    · exact Or.inl (by simpa [groupsIn?_eq_some_iff] using address)
    · rename_i before behind parted
      split at address
      · rename_i first last countedFirst countedLast
        exact Or.inr ⟨before, behind, first, last, eq_of_atGap?_eq_some parted, countedFirst,
          countedLast, of_decide_eq_true address⟩
      · nomatch address
  · rintro (groups | ⟨before, behind, first, last, rfl, countedFirst, countedLast, few⟩)
    · have noGap : atGap? cs = none := by simpa [atGap?] using groups.atGap?_append []
      simp [isGroupedAddress, noGap, groupsIn?_eq_some_iff, groups]
    · have parted : atGap? (before ++ ':' :: ':' :: behind) = some (before, behind) := by
        rcases groupsIn?_eq_some_iff.mp countedFirst with ⟨-, rfl⟩ | groups
        · rfl
        · simpa [atGap?] using groups.atGap?_append (':' :: ':' :: behind)
      simp [isGroupedAddress, parted, countedFirst, countedLast, few]

theorem forall_mem_of_isGroupedAddress (address : isGroupedAddress cs)
    : ∀ c ∈ cs, IsAddressCharacter c := by
  have ofCount {dotted : Bool} {part : List Char} {count : Nat}
      (counted : groupsIn? dotted part = some count)
      : ∀ c ∈ part, IsAddressCharacter c := by
    rcases groupsIn?_eq_some_iff.mp counted with ⟨-, rfl⟩ | groups
    · nofun
    · exact groups.forall_mem
  have colon : IsAddressCharacter ':' := Or.inr (Or.inl rfl)
  rcases isGroupedAddress_iff.mp address with
    groups | ⟨before, behind, _, _, rfl, countedFirst, countedLast, _⟩
  · exact groups.forall_mem
  · simp only [List.forall_mem_append, List.forall_mem_cons]
    exact ⟨ofCount countedFirst, colon, colon, ofCount countedLast⟩

/-- Two languages with a gap between what they have. -/
theorem mem_gap {m : Language Char}
    : cs ∈ l * gap * m ↔ ∃ before ∈ l, ∃ behind ∈ m, cs = before ++ ':' :: ':' :: behind := by
  rw [gap, mul_assoc, mul_assoc, mem_mul_mark_mul]
  simp only [mem_mark_mul]
  grind

/-- At most a number of groups before the gap, by the rule that fits the number. -/
def beforeGap
    : Nat → Language Char
  | 0 => 1
  | 1 => optional group
  | n + 2 => optional (upTo (n + 1) groupColon * group)

/-- A number of groups behind the gap, the last two of which may be four decimal numbers. -/
def behindGap
    : Nat → Language Char
  | 0 => 1
  | 1 => group
  | n + 2 => groupColon ^ n * lastGroups

theorem mem_beforeGap
    : cs ∈ beforeGap n ↔ ∃ count ≤ n, groupsIn? false cs = some count := by
  have upToGroups {k : Nat}
      : cs ∈ optional (upTo k groupColon * group)
        ↔ ∃ count ≤ k + 1, groupsIn? false cs = some count := by
    have joined : cs ∈ upTo k groupColon * group ↔ ∃ j ≤ k, cs ∈ groupColon ^ j * group := by
      simp only [Language.mem_mul, mem_upTo]
      grind
    simp only [mem_optional, joined, groupsIn?_eq_some_iff, groups_false_iff]
    constructor
    · rintro (rfl | ⟨j, few, member⟩)
      · exact ⟨0, by omega, Or.inl ⟨rfl, rfl⟩⟩
      · exact ⟨j + 1, by omega, Or.inr ⟨j, rfl, member⟩⟩
    · rintro ⟨_, few, ⟨-, rfl⟩ | ⟨j, rfl, member⟩⟩
      · exact Or.inl rfl
      · exact Or.inr ⟨j, by omega, member⟩
  match n with
  | 0 => simp [beforeGap, Language.mem_one, groupsIn?_eq_some_iff, groups_false_iff]
  | 1 =>
      have none : upTo 0 groupColon = 1 := by
        ext cs
        simp [mem_upTo]
      rw [beforeGap, ← upToGroups, none, one_mul]
  | n + 2 => exact upToGroups

theorem mem_behindGap
    : cs ∈ behindGap n ↔ groupsIn? true cs = some n := by
  rw [groupsIn?_eq_some_iff, groups_true_iff]
  match n with
  | 0 => simp [behindGap, Language.mem_one]
  | 1 => simp [behindGap]
  | n + 2 => simp [behindGap]

/-- The rule for addresses takes the numbers of groups behind the gap in turn, each with the numbers
of groups before it that leave out one at least. -/
theorem ipv6Address_eq
    : ipv6Address
      = behindGap 8
        + beforeGap 0 * gap * behindGap 7
        + beforeGap 1 * gap * behindGap 6
        + beforeGap 2 * gap * behindGap 5
        + beforeGap 3 * gap * behindGap 4
        + beforeGap 4 * gap * behindGap 3
        + beforeGap 5 * gap * behindGap 2
        + beforeGap 6 * gap * behindGap 1
        + beforeGap 7 * gap * behindGap 0 := by
  simp only [ipv6Address, beforeGap, behindGap, one_mul, mul_one, pow_zero, pow_one, mul_assoc]

theorem mem_ipv6Address
    : cs ∈ ipv6Address ↔ isGroupedAddress cs := by
  have whole : Groups true 8 cs ↔ groupsIn? true cs = some 8 := by simp [groupsIn?_eq_some_iff]
  simp only [isGroupedAddress_iff, whole, ipv6Address_eq, Language.mem_add, mem_gap, mem_beforeGap,
    mem_behindGap, or_assoc]
  refine or_congr_right ⟨?_, ?_⟩
  · rintro (alternative | alternative | alternative | alternative | alternative | alternative
      | alternative | alternative)
    all_goals
      obtain ⟨before, ⟨first, few, countedFirst⟩, behind, countedLast, rfl⟩ := alternative
      exact ⟨before, behind, first, _, rfl, countedFirst, countedLast, by omega⟩
  · rintro ⟨before, behind, first, last, rfl, countedFirst, countedLast, few⟩
    have last_le : last ≤ 7 := by omega
    interval_cases last <;> grind

end Assay.Format.Grammar
