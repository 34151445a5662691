import Assay.Proofs.Format.References
import Mathlib

/-! Derivations of references. The grammar is read by the parts of a reference, which it derives one
by one; what passes the format of references has every part derived but for authorities without
brackets, of which the check asks nothing.
-/

namespace Assay.Format.Grammar
open Computability

variable {l m k : Language Char} {cs rest : List Char}

-----------------------------------------------------------------------------------------
-- Paths
-----------------------------------------------------------------------------------------

/-- The texts of paths: characters of paths and slashes in any order. -/
def pathCharacters : Language Char := (pathCharacter + mark '/')∗

theorem mul_le_of_le_kstar (first : l ≤ k∗) (second : m ≤ k∗)
    : l * m ≤ k∗ :=
  (mul_le_mul' first second).trans (kstar_mul_kstar k).le

theorem kstar_le_of_le_kstar (each : l ≤ k∗)
    : l∗ ≤ k∗ :=
  (kstar_mono each).trans (kstar_idem k).le

theorem segment_le
    : segment ≤ pathCharacters :=
  kstar_mono le_self_add

theorem slashedSegments_le
    : slashedSegments ≤ pathCharacters :=
  kstar_le_of_le_kstar (mul_le_of_le_kstar (le_add_self.trans le_kstar) segment_le)

/-- A path is its first segment with slashes and further segments behind it. -/
theorem exists_segment (member : cs ∈ pathCharacters)
    : ∃ first ∈ segment, ∃ behind ∈ slashedSegments, first ++ behind = cs :=
  kstar_add_le pathCharacter (mark '/') member

theorem mem_kstar_iff
    : cs ∈ l∗ ↔ cs = [] ∨ cs ∈ l * l∗ := by
  nth_rewrite 1 [← Language.one_add_self_mul_kstar_eq_kstar l]
  rfl

/-- Characters that pass a check that no mark passes are no marks. -/
theorem madeOf_oneOf {marks : List Char} {isKind : Char → Bool} (none : marks.all (!isKind ·))
    : MadeOf (· ∉ marks) (oneOf (isKind ·)) := by
  refine .oneOf fun c kind mark => ?_
  simpa [kind] using List.all_eq_true.mp none c mark

theorem madeOf_anyOf {marks : List Char} {kind : String}
    (none : marks.all (!kind.toList.contains ·))
    : MadeOf (· ∉ marks) (anyOf kind) := by
  refine .oneOf fun c kind mark => ?_
  simpa [kind] using List.all_eq_true.mp none c mark

theorem madeOf_mark {marks : List Char} {c : Char} (other : !marks.contains c)
    : MadeOf (· ∉ marks) (mark c) := by
  refine .oneOf ?_
  rintro _ rfl
  simpa using other

theorem madeOf_percentEncoded {marks : List Char} (percent : !marks.contains '%')
    (noDigits : marks.all (!isHexDigit ·))
    : MadeOf (· ∉ marks) percentEncoded := by
  have digits : MadeOf (· ∉ marks) hexDigit := hexDigit_eq ▸ madeOf_oneOf noDigits
  exact ((madeOf_mark percent).mul digits).mul digits

/-- The characters and escapes of names. -/
def nameCharacter : Language Char := unreserved + percentEncoded + subDelimiter

theorem madeOf_nameCharacter {marks : List Char} (among : marks ⊆ ":/?#[]@".toList)
    : MadeOf (· ∉ marks) nameCharacter := by
  have all : MadeOf (· ∉ ":/?#[]@".toList) nameCharacter := by
    rw [nameCharacter, unreserved_eq, subDelimiter_eq]
    exact ((madeOf_oneOf (by decide)).add (madeOf_percentEncoded (by decide) (by decide))).add
      (madeOf_oneOf (by decide))
  exact fun cs member c here mark => all cs member c here (among mark)

/-- No character of a path sets parts apart or is a bracket. -/
theorem madeOf_pathCharacter {marks : List Char} (among : marks ⊆ ":/?#[]@".toList)
    (other : marks.all (!":@".toList.contains ·))
    : MadeOf (· ∉ marks) pathCharacter :=
  (madeOf_nameCharacter among).add (madeOf_anyOf other)

theorem notMem_segment (member : cs ∈ segment)
    : '/' ∉ cs := by
  have slash : MadeOf (· ∉ ['/']) segment := (madeOf_pathCharacter (by decide) (by decide)).kstar
  exact fun here => slash cs member _ here List.mem_cons_self

theorem mem_slashedSegments
    : cs ∈ slashedSegments
      ↔ cs = [] ∨ ∃ first ∈ segment, ∃ behind ∈ slashedSegments, cs = '/' :: (first ++ behind) := by
  rw [slashedSegments, mem_kstar_iff, mul_assoc, mem_mark_mul]
  simp only [Language.mem_mul]
  grind

/-- What follows the first segment is not part of it. -/
theorem takeWhile_segment_append (first : cs ∈ segment) (behind : rest ∈ slashedSegments)
    : (cs ++ rest).takeWhile (· ≠ '/') = cs := by
  rw [List.takeWhile_append_of_pos fun c member => ?_]
  · rcases mem_slashedSegments.mp behind with rfl | ⟨_, _, _, _, rfl⟩ <;> simp
  · have other : c ≠ '/' := by
      rintro rfl
      exact notMem_segment first member
    simpa using other

theorem mem_slashedSegments_iff
    : cs ∈ slashedSegments ↔ cs ∈ pathCharacters ∧ (cs = [] ∨ cs.head? = some '/') := by
  constructor
  · intro member
    refine ⟨slashedSegments_le member, ?_⟩
    rcases mem_slashedSegments.mp member with rfl | ⟨_, _, _, _, rfl⟩ <;> simp
  · rintro ⟨member, begins⟩
    obtain ⟨first, isSegment, behind, slashed, rfl⟩ := exists_segment member
    cases first with
    | nil => exact slashed
    | cons c first =>
        obtain rfl : c = '/' := by simpa using begins
        exact absurd List.mem_cons_self (notMem_segment isSegment)

theorem mem_mul_kstar_iff (some : [] ∉ l)
    : cs ∈ l * l∗ ↔ cs ≠ [] ∧ cs ∈ l∗ := by
  constructor
  · intro member
    refine ⟨?_, mul_kstar_le_kstar (a := l) member⟩
    rintro rfl
    obtain ⟨first, isFirst, behind, -, none⟩ := Language.mem_mul.mp member
    exact some ((List.append_eq_nil_iff.mp none).1 ▸ isFirst)
  · rintro ⟨present, member⟩
    exact (mem_kstar_iff.mp member).resolve_left present

theorem nil_notMem_pathCharacter
    : [] ∉ pathCharacter := by
  rw [pathCharacter, unreserved_eq, subDelimiter_eq, anyOf]
  simp only [Language.mem_add, nil_notMem_oneOf, mem_percentEncoded]
  simp

theorem mem_firstSegment
    : cs ∈ firstSegment ↔ cs ≠ [] ∧ cs ∈ segment :=
  mem_mul_kstar_iff nil_notMem_pathCharacter

theorem mem_absolutePath
    : cs ∈ absolutePath
      ↔ cs = ['/']
        ∨ ∃ first ∈ firstSegment, ∃ behind ∈ slashedSegments, cs = '/' :: (first ++ behind) := by
  rw [absolutePath, mem_mark_mul]
  simp only [mem_optional, Language.mem_mul]
  grind

theorem not_slash_prefix_append (first : cs ∈ firstSegment)
    : ¬['/'] <+: cs ++ rest ∧ ¬['/', '/'] <+: cs ++ rest := by
  obtain ⟨present, isSegment⟩ := mem_firstSegment.mp first
  cases cs with
  | nil => exact absurd rfl present
  | cons c cs =>
      have other : '/' ≠ c := by
        rintro rfl
        exact notMem_segment isSegment List.mem_cons_self
      simp [List.cons_prefix_cons, other]

/-- A path alone does not look like an authority. Unless it is empty or begins with a slash, its
first segment is one of those that it may begin with. -/
theorem mem_pathFrom {named : Language Char} (kind : named ≤ firstSegment)
    : cs ∈ pathFrom named
      ↔ cs ∈ pathCharacters
        ∧ ¬['/', '/'] <+: cs
        ∧ (cs.takeWhile (· ≠ '/') = [] ∨ cs.takeWhile (· ≠ '/') ∈ named) := by
  simp only [pathFrom, Language.mem_add, mem_absolutePath, Language.mem_one, or_assoc]
  constructor
  · rintro (rfl | ⟨first, isFirst, behind, slashed, rfl⟩ | member | rfl)
    · have slash : ['/'] ∈ slashedSegments :=
        mem_slashedSegments.mpr
          (Or.inr ⟨[], Language.nil_mem_kstar _, [], Language.nil_mem_kstar _, rfl⟩)
      exact ⟨slashedSegments_le slash, by simp, by simp⟩
    · have isSegment := (mem_firstSegment.mp isFirst).2
      have whole := mem_slashedSegments.mpr (Or.inr ⟨first, isSegment, behind, slashed, rfl⟩)
      refine ⟨slashedSegments_le whole, ?_, by simp⟩
      rw [List.cons_prefix_cons, not_and]
      exact fun _ => (not_slash_prefix_append isFirst).1
    · obtain ⟨first, isNamed, behind, slashed, rfl⟩ := Language.mem_mul.mp member
      have isSegment := (mem_firstSegment.mp (kind isNamed)).2
      rw [takeWhile_segment_append isSegment slashed]
      exact ⟨mul_le_of_le_kstar segment_le slashedSegments_le
        (Language.append_mem_mul isSegment slashed), (not_slash_prefix_append (kind isNamed)).2,
        Or.inr isNamed⟩
    · exact ⟨Language.nil_mem_kstar _, by simp, by simp⟩
  · rintro ⟨member, noSlashes, begins⟩
    obtain ⟨first, isSegment, behind, slashed, rfl⟩ := exists_segment member
    rw [takeWhile_segment_append isSegment slashed] at begins
    rcases begins with rfl | isNamed
    · rcases mem_slashedSegments.mp slashed with rfl | ⟨second, isSecond, rest, later, rfl⟩
      · simp
      · by_cases none : second = []
        · subst none
          rcases mem_slashedSegments.mp later with rfl | ⟨_, _, _, _, rfl⟩
          · simp
          · simp [List.cons_prefix_cons] at noSlashes
        · have isFirst := mem_firstSegment.mpr ⟨none, isSecond⟩
          exact Or.inr (Or.inl ⟨second, isFirst, rest, later, rfl⟩)
    · exact Or.inr (Or.inr (Or.inl (Language.append_mem_mul isNamed slashed)))

theorem takeWhile_mem_segment (member : cs ∈ pathCharacters)
    : cs.takeWhile (· ≠ '/') ∈ segment := by
  obtain ⟨first, isSegment, behind, slashed, rfl⟩ := exists_segment member
  rwa [takeWhile_segment_append isSegment slashed]

theorem mem_pathFrom_firstSegment
    : cs ∈ pathFrom firstSegment ↔ cs ∈ pathCharacters ∧ ¬['/', '/'] <+: cs := by
  rw [mem_pathFrom le_rfl]
  refine and_congr_right fun member => and_iff_left ?_
  rw [mem_firstSegment]
  exact or_iff_not_imp_left.mpr fun present => ⟨present, takeWhile_mem_segment member⟩

/-- A character of a path is a colon or one of those of segments without colons. -/
theorem pathCharacter_eq
    : pathCharacter = plainCharacter + mark ':' := by
  have marks : anyOf ":@" = mark '@' + mark ':' := by
    rw [anyOf, mark, mark, oneOf_add]
    exact oneOf_congr fun c => by simp [or_comm]
  rw [pathCharacter, plainCharacter, marks, add_assoc _ (mark '@')]

theorem madeOf_plainCharacter
    : MadeOf (· ∉ [':']) plainCharacter :=
  MadeOf.add (madeOf_nameCharacter (by decide)) (madeOf_mark (by decide))

theorem mem_plainCharacter_kstar
    : cs ∈ plainCharacter∗ ↔ cs ∈ segment ∧ ':' ∉ cs := by
  have le : plainCharacter ≤ pathCharacter := pathCharacter_eq ▸ le_self_add
  constructor
  · exact fun member => ⟨kstar_mono le member,
      fun colon => madeOf_plainCharacter.kstar cs member _ colon List.mem_cons_self⟩
  · rintro ⟨isSegment, noColon⟩
    refine mem_kstar_of_forall (· ≠ ':') (fun part member plain => ?_) isSegment ?_
    · rw [pathCharacter_eq, Language.mem_add, mem_mark] at member
      exact member.resolve_right (by rintro rfl; exact plain ':' List.mem_cons_self rfl)
    · rintro c here rfl
      exact noColon here

theorem mem_pathFrom_plainSegment
    : cs ∈ pathFrom plainSegment
      ↔ cs ∈ pathCharacters ∧ ¬['/', '/'] <+: cs ∧ ':' ∉ cs.takeWhile (· ≠ '/') := by
  have none : [] ∉ plainCharacter := fun member =>
    nil_notMem_pathCharacter (pathCharacter_eq ▸ Or.inl member)
  have plain {first : List Char}
      : first ∈ plainSegment ↔ first ≠ [] ∧ first ∈ segment ∧ ':' ∉ first := by
    rw [plainSegment, mem_mul_kstar_iff none, mem_plainCharacter_kstar]
  have kind : plainSegment ≤ firstSegment := fun first member =>
    mem_firstSegment.mpr ⟨(plain.mp member).1, (plain.mp member).2.1⟩
  rw [mem_pathFrom kind, plain]
  refine and_congr_right fun member => and_congr_right fun _ => ?_
  have isSegment := takeWhile_mem_segment member
  generalize cs.takeWhile (· ≠ '/') = first at isSegment
  by_cases empty : first = [] <;> simp [empty, isSegment]

-----------------------------------------------------------------------------------------
-- Parts
-----------------------------------------------------------------------------------------

theorem mem_optional_mark_mul {c : Char}
    : cs ∈ optional (mark c * l) ↔ ∃ part, (∀ p ∈ part, p ∈ l) ∧ cs = marked c part := by
  rw [mem_optional, mem_mark_mul]
  constructor
  · rintro (rfl | ⟨rest, member, rfl⟩)
    · exact ⟨none, nofun, rfl⟩
    · exact ⟨some rest, fun _ same => Option.some.inj same ▸ member, rfl⟩
  · rintro ⟨_ | rest, member, rfl⟩
    · exact Or.inl rfl
    · exact Or.inr ⟨rest, member rest rfl, rfl⟩

theorem mem_ending
    : cs ∈ ending
      ↔ ∃ query fragment,
          (∀ q ∈ query, q ∈ Grammar.query)
          ∧ (∀ f ∈ fragment, f ∈ Grammar.fragment)
          ∧ cs = marked '?' query ++ marked '#' fragment := by
  simp only [ending, Language.mem_mul, mem_optional_mark_mul]
  grind

/-- The parts of a reference are derived each. -/
structure Derived (parts : UriParts)
    : Prop where
  scheme : ∀ scheme ∈ parts.scheme, scheme ∈ Grammar.scheme
  authority : ∀ authority ∈ parts.authority, authority ∈ Grammar.authority
  path : parts.path ∈ pathCharacters
  query : ∀ query ∈ parts.query, query ∈ Grammar.query
  fragment : ∀ fragment ∈ parts.fragment, fragment ∈ Grammar.fragment

/-- The rule for a path, by whether an authority stands before it. -/
def pathBehind (authority : Option (List Char)) (named : Language Char)
    : Language Char :=
  match authority with
  | some _ => slashedSegments
  | none => pathFrom named

theorem mem_part {named : Language Char}
    : cs ∈ mark '/' * mark '/' * authority * slashedSegments + pathFrom named
      ↔ ∃ authority, ∃ path ∈ pathBehind authority named,
          (∀ a ∈ authority, a ∈ Grammar.authority) ∧ cs = authorityText authority ++ path := by
  rw [Language.mem_add, mul_assoc, mul_assoc, mem_mark_mul]
  simp only [mem_mark_mul]
  constructor
  · rintro (⟨_, ⟨rest, member, rfl⟩, rfl⟩ | member)
    · obtain ⟨authority, isAuthority, path, slashed, rfl⟩ := Language.mem_mul.mp member
      exact ⟨some authority, path, slashed, fun _ same => Option.some.inj same ▸ isAuthority, rfl⟩
    · exact ⟨none, cs, member, nofun, rfl⟩
  · rintro ⟨_ | authority, path, member, derived, rfl⟩
    · exact Or.inr member
    · exact Or.inl ⟨_, ⟨_, Language.append_mem_mul (derived authority rfl) member, rfl⟩, rfl⟩

theorem madeOf_scheme
    : MadeOf (· ∉ [':', '/', '?', '#']) scheme := by
  rw [scheme, alpha_eq, digit_eq]
  have letter : MadeOf (· ∉ [':', '/', '?', '#']) (oneOf (·.isAlpha)) :=
    madeOf_oneOf (by decide)
  exact letter.mul (((letter.add (madeOf_oneOf (by decide))).add (madeOf_anyOf (by decide))).kstar)

/-- The marks of the parts behind an authority. -/
def endMarks : List Char := ['/', '?', '#']

theorem notMem_endMarks {c : Char} (character : IsAddressCharacter c)
    : c ∉ endMarks := by
  have digits : MadeOf (· ∉ endMarks) (oneOf (isHexDigit ·)) := madeOf_oneOf (by decide)
  rcases character with hex | rfl | rfl
  · exact digits [c] ⟨c, hex, rfl⟩ c List.mem_cons_self
  · decide
  · decide

/-- No character of an authority ends it. -/
theorem madeOf_authority
    : MadeOf (· ∉ endMarks) authority := by
  have digits : MadeOf (· ∉ endMarks) digit := digit_eq ▸ madeOf_oneOf (by decide)
  have hexDigits : MadeOf (· ∉ endMarks) hexDigit := hexDigit_eq ▸ madeOf_oneOf (by decide)
  have plain : MadeOf (· ∉ endMarks) unreserved := unreserved_eq ▸ madeOf_oneOf (by decide)
  have delimiters : MadeOf (· ∉ endMarks) subDelimiter := subDelimiter_eq ▸ madeOf_oneOf (by decide)
  have named : MadeOf (· ∉ endMarks) nameCharacter := madeOf_nameCharacter (by decide)
  have ipv4 : MadeOf (· ∉ endMarks) ipv4Address := fun cs member c here =>
    notMem_endMarks (forall_mem_of_isDottedQuad (mem_ipv4Address.mp member) c here)
  have ipv6 : MadeOf (· ∉ endMarks) ipv6Address := fun cs member c here =>
    notMem_endMarks (forall_mem_of_isGroupedAddress (mem_ipv6Address.mp member) c here)
  have laterCharacters : MadeOf (· ∉ endMarks) laterCharacter :=
    (plain.add delimiters).add (madeOf_mark (by decide))
  have later : MadeOf (· ∉ endMarks) laterAddress :=
    (madeOf_anyOf (by decide)).mul
      (((hexDigits.mul hexDigits.kstar).mul (madeOf_mark (by decide))).mul
        (laterCharacters.mul laterCharacters.kstar))
  have literal : MadeOf (· ∉ endMarks) literalHost :=
    ((madeOf_mark (by decide)).mul (ipv6.add later)).mul (madeOf_mark (by decide))
  have user : MadeOf (· ∉ endMarks) userInfo := (named.add (madeOf_mark (by decide))).kstar
  exact ((user.mul (madeOf_mark (by decide))).optional.mul
    ((literal.add ipv4).add named.kstar)).mul ((madeOf_mark (by decide)).mul digits.kstar).optional

theorem not_isPartMark_iff {c : Char}
    : ¬isPartMark c ↔ c ∉ endMarks := by
  simp [isPartMark, endMarks, and_assoc]

theorem madeOf_pathCharacters
    : MadeOf (fun c => c ≠ '?' ∧ c ≠ '#') pathCharacters := by
  have marks : MadeOf (· ∉ ['?', '#']) pathCharacters :=
    (MadeOf.add (madeOf_pathCharacter (by decide) (by decide)) (madeOf_mark (by decide))).kstar
  intro cs member c here
  simpa using marks cs member c here

theorem notMem_query (member : cs ∈ query)
    : '#' ∉ cs := by
  have marks : MadeOf (· ∉ ['#']) query :=
    ((madeOf_pathCharacter (by decide) (by decide)).add (madeOf_anyOf (by decide))).kstar
  exact fun hash => marks cs member _ hash List.mem_cons_self

/-- Derived parts keep clear of the marks that end them. -/
theorem Derived.separated {parts : UriParts} (derived : Derived parts)
    (withoutAuthority : parts.authority = none → ¬['/', '/'] <+: parts.path)
    (withoutScheme
      : parts.scheme = none → parts.authority = none → ':' ∉ parts.path.takeWhile (· ≠ '/'))
    : parts.Separated where
  scheme scheme same c member := by
    have other := madeOf_scheme _ (derived.scheme scheme same) c member
    simpa [isPartMark, and_assoc] using other
  authority authority same c member :=
    not_isPartMark_iff.mpr (madeOf_authority _ (derived.authority authority same) c member)
  path := madeOf_pathCharacters _ derived.path
  query query same := notMem_query (derived.query query same)
  withoutAuthority := withoutAuthority
  withoutScheme := withoutScheme

/-- The segments with which a path may begin that follows no authority. -/
def namedSegment
    : Option (List Char) → Language Char
  | some _ => firstSegment
  | none => plainSegment

theorem mem_pathBehind_iff {scheme authority : Option (List Char)}
    : cs ∈ pathBehind authority (namedSegment scheme)
      ↔ cs ∈ pathCharacters
        ∧ (authority = none → ¬['/', '/'] <+: cs)
        ∧ (scheme = none → authority = none → ':' ∉ cs.takeWhile (· ≠ '/'))
        ∧ (authority.isSome → cs = [] ∨ cs.head? = some '/') := by
  cases authority with
  | some authority => simp [pathBehind, mem_slashedSegments_iff]
  | none =>
      cases scheme with
      | some scheme => simp [pathBehind, namedSegment, mem_pathFrom_firstSegment]
      | none => simp [pathBehind, namedSegment, mem_pathFrom_plainSegment]

/-- The grammar derives the texts that are made up of derived parts. -/
theorem mem_uriReference_iff
    : cs ∈ uriReference
      ↔ ∃ parts : UriParts,
          cs = parts.text ∧ parts.Separated ∧ parts.EndsAuthority ∧ Derived parts := by
  have split
      : cs ∈ uriReference
        ↔ ∃ parts : UriParts,
            cs = parts.text
            ∧ (∀ s ∈ parts.scheme, s ∈ scheme)
            ∧ (∀ a ∈ parts.authority, a ∈ authority)
            ∧ parts.path ∈ pathBehind parts.authority (namedSegment parts.scheme)
            ∧ (∀ q ∈ parts.query, q ∈ query)
            ∧ ∀ f ∈ parts.fragment, f ∈ fragment := by
    rw [uriReference, Language.mem_add, mul_assoc, mul_assoc, mem_mul_mark_mul]
    simp only [hierarchicalPart, relativePart, Language.mem_mul, mem_part, mem_ending]
    constructor
    · rintro (⟨s, isScheme, _, ⟨_, ⟨a, path, isPath, isAuthority, rfl⟩, _,
            ⟨q, f, isQuery, isFragment, rfl⟩, rfl⟩, rfl⟩
        | ⟨_, ⟨a, path, isPath, isAuthority, rfl⟩, _, ⟨q, f, isQuery, isFragment, rfl⟩, rfl⟩)
      · refine ⟨⟨some s, a, path, q, f⟩, ?_, fun _ same => Option.some.inj same ▸ isScheme,
          isAuthority, isPath, isQuery, isFragment⟩
        simp [UriParts.text, UriParts.pathText, schemeText]
      · refine ⟨⟨none, a, path, q, f⟩, ?_, by simp, isAuthority, isPath, isQuery, isFragment⟩
        simp [UriParts.text, UriParts.pathText, schemeText]
    · rintro ⟨⟨_ | s, a, path, q, f⟩, rfl, isScheme, isAuthority, isPath, isQuery, isFragment⟩
      · refine Or.inr ⟨_, ⟨a, path, isPath, isAuthority, rfl⟩, _,
          ⟨q, f, isQuery, isFragment, rfl⟩, ?_⟩
        simp [UriParts.text, UriParts.pathText, schemeText]
      · refine Or.inl ⟨s, isScheme s rfl, _, ⟨_, ⟨a, path, isPath, isAuthority, rfl⟩, _,
          ⟨q, f, isQuery, isFragment, rfl⟩, rfl⟩, ?_⟩
        simp [UriParts.text, UriParts.pathText, schemeText]
  rw [split]
  refine exists_congr fun parts => and_congr_right fun _ => ?_
  rw [mem_pathBehind_iff]
  constructor
  · rintro ⟨isScheme, isAuthority, ⟨isPath, noSlashes, noColon, ends⟩, isQuery, isFragment⟩
    have derived : Derived parts := ⟨isScheme, isAuthority, isPath, isQuery, isFragment⟩
    exact ⟨derived.separated noSlashes noColon, ends, derived⟩
  · rintro ⟨separated, ends, derived⟩
    exact ⟨derived.scheme, derived.authority, ⟨derived.path, separated.withoutAuthority,
      separated.withoutScheme, ends⟩, derived.query, derived.fragment⟩

-----------------------------------------------------------------------------------------
-- What passes
-----------------------------------------------------------------------------------------

theorem uriCharacter_le
    : uriCharacter ≤ nameCharacter + anyOf ":/?#[]@" := by
  rw [uriCharacter, reserved, nameCharacter, generalDelimiter]
  rintro cs ((plain | general | sub) | escape)
  · exact Or.inl (Or.inl (Or.inl plain))
  · exact Or.inr general
  · exact Or.inl (Or.inr sub)
  · exact Or.inl (Or.inl (Or.inr escape))

/-- What has the characters of references, but no marks other than some, repeats the characters of
names and these marks. -/
theorem mem_kstar_of_hasUriCharacters {marks : List Char} (kept : List Char)
    (names : nameCharacter ≤ l) (others : ∀ c ∈ kept, [c] ∈ l)
    (covered : ":/?#[]@".toList.all fun c => marks.contains c || kept.contains c)
    (checked : hasUriCharacters cs) (clear : ∀ c ∈ cs, c ∉ marks)
    : cs ∈ l∗ := by
  refine mem_kstar_of_forall (· ∉ marks) (fun part member noMark => ?_)
    (mem_uriCharacter_kstar.mpr checked) clear
  rcases uriCharacter_le member with name | ⟨c, general, rfl⟩
  · exact names name
  · have known := List.all_eq_true.mp covered c general
    have noMark := noMark c List.mem_cons_self
    exact others c (by simpa [noMark] using known)

theorem mem_registeredName (checked : hasUriCharacters cs)
    (clear : ∀ c ∈ cs, c ∉ [':', '/', '?', '#', '[', ']', '@'])
    : cs ∈ registeredName :=
  mem_kstar_of_hasUriCharacters [] le_rfl nofun (by decide) checked clear

theorem mem_userInfo (checked : hasUriCharacters cs)
    (clear : ∀ c ∈ cs, c ∉ ['/', '?', '#', '[', ']', '@'])
    : cs ∈ userInfo := by
  refine mem_kstar_of_hasUriCharacters [':'] le_self_add ?_ (by decide) checked clear
  simp only [List.forall_mem_cons, Language.mem_add, mem_mark]
  simp

theorem mem_pathCharacters (checked : hasUriCharacters cs)
    (clear : ∀ c ∈ cs, c ∉ ['?', '#', '[', ']'])
    : cs ∈ pathCharacters := by
  refine mem_kstar_of_hasUriCharacters [':', '@', '/'] (le_self_add.trans le_self_add) ?_
    (by decide) checked clear
  simp only [List.forall_mem_cons, pathCharacter, anyOf, Language.mem_add, mem_mark, mem_oneOf]
  simp

theorem mem_query_of_hasUriCharacters (checked : hasUriCharacters cs)
    (clear : ∀ c ∈ cs, c ∉ ['#', '[', ']'])
    : cs ∈ query := by
  refine mem_kstar_of_hasUriCharacters [':', '@', '/', '?'] (le_self_add.trans le_self_add) ?_
    (by decide) checked clear
  simp only [List.forall_mem_cons, pathCharacter, anyOf, Language.mem_add, mem_oneOf]
  simp

/-- An authority with a named host: perhaps a user and an at sign before it, and a colon and digits
behind it, but no further at sign or colon. -/
def namedAuthority : Language Char :=
  optional ((oneOf (· ∉ ['@']))∗ * mark '@')
    * (oneOf (· ∉ ['@', ':']))∗
    * optional (mark ':' * port)

/-- Neither an address of four numbers nor a name has the marks of users and ports. -/
theorem madeOf_name
    : MadeOf (· ∉ ['@', ':']) (ipv4Address + registeredName) := by
  refine MadeOf.add (fun cs ipv4 c here mark => ?_) (madeOf_nameCharacter (by decide)).kstar
  have quad := mem_ipv4Address.mp ipv4
  rcases List.mem_pair.mp mark with rfl | rfl
  · rcases forall_mem_of_isDottedQuad quad _ here with hex | same | same
    · exact absurd hex (by decide)
    · exact absurd same (by decide)
    · exact absurd same (by decide)
  · exact (marks_of_isDottedQuad quad).1 here

theorem madeOf_userInfo
    : MadeOf (· ∉ ['@']) userInfo :=
  ((madeOf_nameCharacter (by decide)).add (madeOf_mark (by decide))).kstar

theorem mem_mul_mul
    : cs ∈ l * m * k ↔ ∃ a ∈ l, ∃ b ∈ m, ∃ c ∈ k, cs = a ++ (b ++ c) := by
  rw [mul_assoc]
  simp only [Language.mem_mul]
  grind

/-- An authority that the grammar derives has its host in brackets, or a named one. -/
theorem bracket_or_named (derived : cs ∈ authority)
    : '[' ∈ cs ∨ cs ∈ namedAuthority := by
  obtain ⟨user, isUser, named, isHost, port, isPort, rfl⟩ := mem_mul_mul.mp derived
  rw [host, add_assoc, Language.mem_add] at isHost
  rcases isHost with literal | isNamed
  · left
    rw [literalHost, mul_assoc, mem_mark_mul] at literal
    obtain ⟨address, -, rfl⟩ := literal
    simp
  · right
    have isNamed := mem_oneOf_kstar.mpr (madeOf_name named isNamed)
    refine mem_mul_mul.mpr
      ⟨user, isUser.imp_right fun member => ?_, named, isNamed, port, isPort, rfl⟩
    obtain ⟨name, isName, rfl⟩ := mem_mul_mark.mp member
    exact mem_mul_mark.mpr ⟨name, mem_oneOf_kstar.mpr (madeOf_userInfo name isName), rfl⟩

/-- What stands before the host names a user, if an authority has the characters of references. -/
theorem mem_optional_userInfo {user marks others : List Char}
    (covered : ['/', '?', '#', '[', ']', '@'] ⊆ marks ++ others)
    (checked : hasUriCharacters (user ++ rest)) (clear : ∀ c ∈ user, c ∉ others)
    (named : user ∈ optional ((oneOf (· ∉ marks))∗ * mark '@'))
    : user ∈ optional (userInfo * mark '@') ∧ hasUriCharacters rest := by
  rcases named with rfl | member
  · exact ⟨Or.inl rfl, checked⟩
  · obtain ⟨name, isName, rfl⟩ := mem_mul_mark.mp member
    rw [List.append_assoc] at checked
    have ended : hasUriCharacters (name ++ marked '@' (some rest)) := checked
    obtain ⟨nameChecked, behind⟩ :=
      hasUriCharacters_append_marked (by decide) (by decide) ended
    have isUser : name ∈ userInfo := mem_userInfo nameChecked fun c here mark =>
      (List.mem_append.mp (covered mark)).elim (mem_oneOf_kstar.mp isName c here)
        (clear c (List.mem_append_left _ here))
    exact ⟨Or.inr (mem_mul_mark.mpr ⟨name, isUser, rfl⟩), behind rest rfl⟩

theorem mem_authority_of_named (checked : hasUriCharacters cs)
    (clear : ∀ c ∈ cs, c ∉ ['/', '?', '#', '[', ']']) (named : cs ∈ namedAuthority)
    : cs ∈ authority := by
  obtain ⟨user, isUser, name, isName, port, isPort, rfl⟩ := mem_mul_mul.mp named
  rw [List.forall_mem_append, List.forall_mem_append] at clear
  obtain ⟨userClear, nameClear, -⟩ := clear
  obtain ⟨derivedUser, behind⟩ := mem_optional_userInfo (by decide) checked userClear isUser
  have registered : name ∈ registeredName := by
    obtain ⟨digits, -, rfl⟩ := mem_optional_mark_mul.mp isPort
    obtain ⟨nameChecked, -⟩ := hasUriCharacters_append_marked (by decide) (by decide) behind
    have covered
        : [':', '/', '?', '#', '[', ']', '@'] ⊆ ['@', ':'] ++ ['/', '?', '#', '[', ']'] := by
      decide
    exact mem_registeredName nameChecked fun c here mark =>
      (List.mem_append.mp (covered mark)).elim (mem_oneOf_kstar.mp isName c here) (nameClear c here)
  exact mem_mul_mul.mpr ⟨user, derivedUser, name, Or.inr registered, port, isPort, rfl⟩

theorem mem_authority_of_bracketed (checked : hasUriCharacters cs)
    (clear : ∀ c ∈ cs, c ∉ endMarks) (bracketed : cs ∈ bracketedAuthority checkedLiteral)
    : cs ∈ authority := by
  obtain ⟨user, isUser, literal, isLiteral, port, isPort, rfl⟩ := mem_mul_mul.mp bracketed
  have isHost : literal ∈ literalHost :=
    mul_le_mul_left (mul_le_mul_right checkedLiteral_le _) _ isLiteral
  have userClear := fun c here => clear c (List.mem_append_left _ here)
  obtain ⟨derivedUser, -⟩ := mem_optional_userInfo (by decide) checked userClear isUser
  exact mem_mul_mul.mpr ⟨user, derivedUser, literal, Or.inl (Or.inl isHost), port, isPort, rfl⟩

end Assay.Format.Grammar

namespace Assay.Format
open Grammar

theorem not_isBracket_iff {c : Char}
    : ¬isBracket c ↔ c ≠ '[' ∧ c ≠ ']' := by
  simp [isBracket]

/-- The parts of what passes are derived each, but that its authority may have a host without
brackets that is no name. -/
theorem UriParts.Placed.derived {parts : UriParts} (placed : parts.Placed checkedLiteral)
    (characters : parts.HasUriCharacters)
    (hosts : ∀ authority ∈ parts.authority, '[' ∈ authority ∨ authority ∈ namedAuthority)
    : Derived parts where
  scheme := placed.scheme
  authority authority same := by
    have checked := characters.authority authority same
    have clear : ∀ c ∈ authority, c ∉ endMarks := fun c here =>
      not_isPartMark_iff.mp (placed.separated.authority authority same c here)
    rcases placed.authority authority same with noBracket | bracketed
    · have named : authority ∈ namedAuthority := (hosts authority same).resolve_left fun bracket =>
        noBracket _ bracket rfl
      refine mem_authority_of_named checked (fun c here mark => ?_) named
      have noEnd := clear c here
      have noBracket := not_isBracket_iff.mp (noBracket c here)
      simp only [endMarks, List.mem_cons, not_or] at noEnd mark
      tauto
    · exact mem_authority_of_bracketed checked clear bracketed
  path := mem_pathCharacters characters.path fun c here => by
    have noEnd := placed.separated.path c here
    have noBracket := not_isBracket_iff.mp (placed.path c here)
    simp [noEnd, noBracket]
  query query same := mem_query_of_hasUriCharacters (characters.query query same) fun c here => by
    have noHash : c ≠ '#' := fun hash => placed.separated.query query same (hash ▸ here)
    have noBracket := not_isBracket_iff.mp (placed.query query same c here)
    simp [noHash, noBracket]
  fragment fragment same :=
    mem_query_of_hasUriCharacters (characters.fragment fragment same) fun c here => by
      obtain ⟨noHash, noBracket⟩ := placed.fragment fragment same c here
      simp [noHash, not_isBracket_iff.mp noBracket]

/-- What passes the format of references is derived by the grammar exactly if its authority, where
it has one, has its host in brackets or a named host. -/
theorem passes_uri_derived_iff_host {s : String} (passes : Passes FormatRegistry.uri s)
    : s.toList ∈ uriReference
      ↔ ∀ parts : UriParts,
          s.toList = parts.text →
          parts.Separated →
          parts.EndsAuthority →
          ∀ authority ∈ parts.authority, '[' ∈ authority ∨ authority ∈ namedAuthority := by
  constructor
  · intro derivation parts whole separated ends
    obtain ⟨others, sameWhole, otherSeparated, otherEnds, derived⟩ :=
      mem_uriReference_iff.mp derivation
    have same : parts = others :=
      (UriParts.ofText_eq_iff.mpr ⟨whole, separated, ends⟩).symm.trans
        (UriParts.ofText_eq_iff.mpr ⟨sameWhole, otherSeparated, otherEnds⟩)
    subst same
    exact fun authority same => bracket_or_named (derived.authority authority same)
  · intro hosts
    rw [passes_uri_iff, isUri_iff] at passes
    obtain ⟨characters, parts, whole, placed, ends⟩ := passes
    rw [mem_uriCharacter_kstar, whole] at characters
    have each := UriParts.hasUriCharacters_of_text placed.separated ends characters
    exact mem_uriReference_iff.mpr ⟨parts, whole, placed.separated, ends,
      placed.derived each (hosts parts whole placed.separated ends)⟩

/-- A port that is no number passes, though the grammar derives no such authority. -/
theorem passes_uri_of_letter_as_port
    : Passes FormatRegistry.uri "//a:b" ∧ "//a:b".toList ∉ uriReference := by
  have passes : Passes FormatRegistry.uri "//a:b" := passes_uri_iff.mpr (by decide)
  have notNamed : "a:b".toList ∉ namedAuthority := by
    intro named
    obtain ⟨user, isUser, name, isName, port, isPort, same⟩ := mem_mul_mul.mp named
    have isName := mem_oneOf_kstar.mp isName
    rcases isUser with rfl | member
    · have same : 'a' :: ':' :: ['b'] = name ++ port := same
      match name, isName with
      | [], _ =>
          rcases mem_optional_port.mp isPort with rfl | ⟨_, _, rfl⟩ <;> simp at same
      | [c], _ =>
          rcases mem_optional_port.mp isPort with rfl | ⟨digits, all, rfl⟩
          · simp at same
          · obtain ⟨-, rfl⟩ : 'a' = c ∧ ['b'] = digits := by simpa using same
            exact absurd (all 'b' List.mem_cons_self) (by decide)
      | c :: d :: rest, isName =>
          obtain ⟨-, rfl, -⟩ : 'a' = c ∧ ':' = d ∧ ['b'] = rest ++ port := by simpa using same
          exact isName ':' (by simp) (by decide)
    · obtain ⟨_, -, rfl⟩ := mem_mul_mark.mp member
      have sign : '@' ∈ "a:b".toList := by simp [same]
      exact absurd sign (by decide)
  refine ⟨passes, fun derivation => ?_⟩
  obtain ⟨whole, separated, ends⟩ :=
    UriParts.ofText_eq_iff.mp (Eq.refl (UriParts.ofText "//a:b".toList))
  have host := (passes_uri_derived_iff_host passes).mp derivation _ whole separated ends
    "a:b".toList (by decide)
  exact host.elim (by decide) notNamed

end Assay.Format
