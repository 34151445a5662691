import Assay.Proofs.Format.Addresses
import Assay.Proofs.Format.Parts
import Mathlib

/-! The characters of references. The check of all characters of a text holds of the repetitions of
reserved characters, unreserved ones and escapes; it holds of every part of a reference on its own,
where the characters that the part keeps clear of leave fewer of the alternatives.
-/

namespace Assay.Format.Grammar
open Computability Number Text

variable {l m : Language Char} {holds : Char → Prop} {c : Char} {cs rest : List Char}

-----------------------------------------------------------------------------------------
-- Repetitions
-----------------------------------------------------------------------------------------

theorem append_mem_kstar (first : cs ∈ l) (later : rest ∈ l∗)
    : cs ++ rest ∈ l∗ :=
  Set.mem_of_mem_of_subset (Language.append_mem_mul first later) (mul_kstar_le_kstar (a := l))

/-- Repetitions whose characters all keep a condition are repetitions of what keeps it. -/
theorem mem_kstar_of_forall (holds : Char → Prop)
    (kept : ∀ cs ∈ l, (∀ c ∈ cs, holds c) → cs ∈ m) (member : cs ∈ l∗) (all : ∀ c ∈ cs, holds c)
    : cs ∈ m∗ := by
  obtain ⟨parts, rfl, members⟩ := Language.mem_kstar.mp member
  refine Language.join_mem_kstar fun part present => kept part (members part present) ?_
  exact fun c here => all c (List.mem_flatten.mpr ⟨part, present, here⟩)

/-- What a language has is made of characters that a condition holds of. -/
def MadeOf (holds : Char → Prop) (l : Language Char)
    : Prop :=
  ∀ cs ∈ l, ∀ c ∈ cs, holds c

theorem MadeOf.oneOf {other : Char → Prop} (kept : ∀ c, other c → holds c)
    : MadeOf holds (oneOf other) := by
  rintro _ ⟨c, other, rfl⟩ d member
  obtain rfl := List.mem_singleton.mp member
  exact kept d other

theorem MadeOf.one
    : MadeOf holds 1 := by
  rintro _ rfl c member
  nomatch member

theorem MadeOf.add (left : MadeOf holds l) (right : MadeOf holds m)
    : MadeOf holds (l + m) :=
  fun cs member => member.elim (left cs) (right cs)

theorem MadeOf.mul (left : MadeOf holds l) (right : MadeOf holds m)
    : MadeOf holds (l * m) := by
  rintro _ ⟨before, hb, behind, hr, rfl⟩ c member
  exact (List.mem_append.mp member).elim (left before hb c) (right behind hr c)

theorem MadeOf.kstar (each : MadeOf holds l)
    : MadeOf holds l∗ := by
  rintro _ member c here
  obtain ⟨parts, rfl, members⟩ := Language.mem_kstar.mp member
  obtain ⟨part, present, here⟩ := List.mem_flatten.mp here
  exact each part (members part present) c here

theorem MadeOf.optional (some : MadeOf holds l)
    : MadeOf holds (optional l) :=
  MadeOf.one.add some

-----------------------------------------------------------------------------------------
-- Kinds of characters
-----------------------------------------------------------------------------------------

theorem isAlpha_iff
    : c.isAlpha ↔ ('A' ≤ c ∧ c ≤ 'Z') ∨ 'a' ≤ c ∧ c ≤ 'z' := by
  simp only [Char.isAlpha, Char.isUpper, Char.isLower, Bool.or_eq_true, Bool.and_eq_true,
    decide_eq_true_eq]
  rfl

theorem isAlphanum_iff
    : c.isAlphanum ↔ c.isAlpha ∨ '0' ≤ c ∧ c ≤ '9' := by
  simp only [Char.isAlphanum, Char.isDigit, Bool.or_eq_true, Bool.and_eq_true, decide_eq_true_eq]
  rfl

theorem alpha_eq
    : alpha = oneOf (·.isAlpha) := by
  simp only [alpha, range, oneOf_add, isAlpha_iff]

theorem unreserved_eq
    : unreserved = oneOf (isUnreserved ·) := by
  simp only [unreserved, alpha_eq, digit, range, anyOf, oneOf_add, isUnreserved, Bool.or_eq_true,
    isAlphanum_iff, List.contains_iff_mem]

theorem subDelimiter_eq
    : subDelimiter = oneOf (isSubDelimiter ·) := by
  simp only [subDelimiter, anyOf, isSubDelimiter, List.contains_iff_mem]

theorem generalDelimiter_eq
    : generalDelimiter = oneOf (isGeneralDelimiter ·) := by
  simp only [generalDelimiter, anyOf, isGeneralDelimiter, List.contains_iff_mem]

/-- The characters of references that need no escape. -/
def isPlain (c : Char)
    : Bool :=
  isUnreserved c || isSubDelimiter c || isGeneralDelimiter c

/-- The characters of references and the escapes. -/
def uriCharacter : Language Char := unreserved + reserved + percentEncoded

theorem uriCharacter_eq
    : uriCharacter = oneOf (isPlain ·) + percentEncoded := by
  simp only [uriCharacter, reserved, unreserved_eq, subDelimiter_eq, generalDelimiter_eq, oneOf_add]
  congr 1
  exact oneOf_congr fun c => by simp [isPlain]; tauto

theorem hasUriCharacters_cons (noEscape : c ≠ '%')
    : hasUriCharacters (c :: rest) = (isPlain c && hasUriCharacters rest) := by
  rw [hasUriCharacters, isPlain]
  rintro _ _ _ rfl
  exact absurd rfl noEscape

theorem mem_percentEncoded
    : cs ∈ percentEncoded
      ↔ ∃ high low, isHexDigit high ∧ isHexDigit low ∧ cs = ['%', high, low] := by
  rw [percentEncoded, mul_assoc, hexDigit_eq, mem_mark_mul]
  simp only [mem_oneOf_mul, mem_oneOf]
  grind

/-- The check of characters holds of repetitions of characters and escapes. -/
theorem mem_uriCharacter_kstar
    : cs ∈ uriCharacter∗ ↔ hasUriCharacters cs := by
  rw [uriCharacter_eq]
  constructor
  · intro member
    obtain ⟨parts, rfl, members⟩ := Language.mem_kstar.mp member
    clear member
    induction parts with
    | nil => rfl
    | cons part parts ih =>
        obtain ⟨member, others⟩ := List.forall_mem_cons.mp members
        rcases member with ⟨c, plain, rfl⟩ | escape
        · have noEscape : c ≠ '%' := by
            rintro rfl
            exact absurd plain (by decide)
          rw [List.flatten_cons, List.singleton_append, hasUriCharacters_cons noEscape, plain,
            ih others]
          rfl
        · obtain ⟨high, low, isHigh, isLow, rfl⟩ := mem_percentEncoded.mp escape
          simp [hasUriCharacters, isHigh, isLow, ih others]
  · intro checked
    fun_induction hasUriCharacters cs with
    | case1 => exact Language.nil_mem_kstar _
    | case2 high low rest ih =>
        simp only [Bool.and_eq_true] at checked
        obtain ⟨⟨isHigh, isLow⟩, later⟩ := checked
        have escape := mem_percentEncoded.mpr ⟨high, low, isHigh, isLow, rfl⟩
        exact append_mem_kstar (Or.inr escape) (ih later)
    | case3 c rest _ ih =>
        obtain ⟨plain, later⟩ := Bool.and_eq_true_iff.mp checked
        have single : [c] ∈ oneOf (isPlain ·) + percentEncoded := Or.inl ⟨c, plain, rfl⟩
        exact append_mem_kstar single (ih later)

/-- No escape goes beyond a character that is no hexadecimal digit. -/
theorem hasUriCharacters_append (ends : ∀ c ∈ rest.head?, ¬isHexDigit c)
    : hasUriCharacters (cs ++ rest) = (hasUriCharacters cs && hasUriCharacters rest) := by
  fun_induction hasUriCharacters cs with
  | case1 => rfl
  | case2 high low cs ih => simp [hasUriCharacters, ih, Bool.and_assoc]
  | case3 c cs noEscape ih =>
      by_cases escape : c = '%'
      · subst escape
        have noPlain
            : isUnreserved '%' = false
              ∧ isSubDelimiter '%' = false
              ∧ isGeneralDelimiter '%' = false := by decide
        match cs, noEscape with
        | [], _ =>
            match rest with
            | [] => rfl
            | [_] => rfl
            | c :: d :: rest => simp [hasUriCharacters, ends c rfl, noPlain]
        | [_], _ =>
            match rest with
            | [] => rfl
            | c :: rest => simp [hasUriCharacters, ends c rfl, noPlain]
        | high :: low :: cs, noEscape => exact absurd rfl (noEscape high low cs rfl)
      · rw [List.cons_append, hasUriCharacters_cons escape, ih, isPlain, Bool.and_assoc]

theorem hasUriCharacters_mark (plain : isPlain c)
    : hasUriCharacters (c :: rest) = hasUriCharacters rest := by
  rw [hasUriCharacters_cons (by rintro rfl; exact absurd plain (by decide)), plain, Bool.true_and]

/-- What stands before a mark and the part behind it have the characters of references each. -/
theorem hasUriCharacters_append_marked {part : Option (List Char)} (plain : isPlain c)
    (noDigit : ¬isHexDigit c) (checked : hasUriCharacters (cs ++ marked c part))
    : hasUriCharacters cs ∧ ∀ behind ∈ part, hasUriCharacters behind := by
  cases part with
  | none => exact ⟨by simpa [marked] using checked, nofun⟩
  | some behind =>
      rw [marked, hasUriCharacters_append (by simpa using noDigit), hasUriCharacters_mark plain,
        Bool.and_eq_true] at checked
      exact ⟨checked.1, fun _ same => Option.some.inj same ▸ checked.2⟩

end Assay.Format.Grammar

namespace Assay.Format
open Grammar

/-- The parts of a reference but for its scheme have the characters of references each. -/
structure UriParts.HasUriCharacters (parts : UriParts)
    : Prop where
  authority : ∀ authority ∈ parts.authority, hasUriCharacters authority
  path : hasUriCharacters parts.path
  query : ∀ query ∈ parts.query, hasUriCharacters query
  fragment : ∀ fragment ∈ parts.fragment, hasUriCharacters fragment

/-- The marks that end a part are no hexadecimal digits, so that no escape goes beyond it. -/
theorem UriParts.hasUriCharacters_of_text {parts : UriParts} (separated : parts.Separated)
    (ends : parts.EndsAuthority) (checked : hasUriCharacters parts.text)
    : parts.HasUriCharacters := by
  have behindScheme : hasUriCharacters (authorityText parts.authority ++ parts.pathText) := by
    unfold text schemeText at checked
    split at checked
    · exact checked
    · rw [List.append_assoc, List.singleton_append, hasUriCharacters_append (by simp; decide),
        hasUriCharacters_mark (by decide), Bool.and_eq_true] at checked
      exact checked.2
  have authorityAndPath
      : (∀ authority ∈ parts.authority, hasUriCharacters authority)
        ∧ hasUriCharacters parts.pathText := by
    cases present : parts.authority with
    | none =>
        rw [present] at behindScheme
        exact ⟨nofun, behindScheme⟩
    | some authority =>
        have marks : ∀ c ∈ parts.pathText.head?, ¬isHexDigit c := by
          intro c first hex
          rw [pathText, List.append_assoc] at first
          have mark := (head?_path_append separated.path head?_ending).mpr
            (ends (Option.isSome_iff_exists.mpr ⟨_, present⟩)) c first
          simp only [isPartMark, Bool.or_eq_true, beq_iff_eq] at mark
          rcases mark with (rfl | rfl) | rfl <;> exact absurd hex (by decide)
        rw [present, authorityText, List.cons_append, List.cons_append,
          hasUriCharacters_mark (by decide), hasUriCharacters_mark (by decide),
          hasUriCharacters_append marks, Bool.and_eq_true] at behindScheme
        exact ⟨fun _ same => Option.some.inj same ▸ behindScheme.1, behindScheme.2⟩
  obtain ⟨authority, behindAuthority⟩ := authorityAndPath
  obtain ⟨beforeFragment, fragment⟩ :=
    hasUriCharacters_append_marked (by decide) (by decide) behindAuthority
  obtain ⟨path, query⟩ := hasUriCharacters_append_marked (by decide) (by decide) beforeFragment
  exact ⟨authority, path, query, fragment⟩

end Assay.Format
