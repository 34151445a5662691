import Assay.Format.Uri
import Mathlib

/-! The parts of references. A text is taken apart at its marks; the parts that are found are the
only ones that make up the text and keep clear of the marks that end them.
-/

namespace Assay.Format

variable {cs rest : List Char}

-----------------------------------------------------------------------------------------
-- Putting parts together
-----------------------------------------------------------------------------------------

/-- What may be left out, with the mark that stands before it. -/
def marked (mark : Char)
    : Option (List Char) → List Char
  | none => []
  | some part => mark :: part

def schemeText
    : Option (List Char) → List Char
  | none => []
  | some scheme => scheme ++ [':']

def authorityText
    : Option (List Char) → List Char
  | none => []
  | some authority => '/' :: '/' :: authority

/-- The path of a reference with what follows it. -/
def UriParts.pathText (parts : UriParts)
    : List Char :=
  parts.path ++ marked '?' parts.query ++ marked '#' parts.fragment

/-- The parts of a reference with the marks between them. -/
def UriParts.text (parts : UriParts)
    : List Char :=
  schemeText parts.scheme ++ (authorityText parts.authority ++ parts.pathText)

/-- The marks that end an authority, and before which a scheme ends. -/
def isPartMark (c : Char)
    : Bool :=
  c == '/' || c == '?' || c == '#'

/-- The parts of a reference keep clear of the marks that would end them, and what is no scheme or
authority does not look like one. -/
structure UriParts.Separated (parts : UriParts)
    : Prop where
  scheme : ∀ scheme ∈ parts.scheme, ∀ c ∈ scheme, c ≠ ':' ∧ ¬isPartMark c
  authority : ∀ authority ∈ parts.authority, ∀ c ∈ authority, ¬isPartMark c
  path : ∀ c ∈ parts.path, c ≠ '?' ∧ c ≠ '#'
  query : ∀ query ∈ parts.query, '#' ∉ query
  withoutAuthority : parts.authority = none → ¬['/', '/'] <+: parts.path
  withoutScheme
    : parts.scheme = none → parts.authority = none → ':' ∉ parts.path.takeWhile (· ≠ '/')

/-- The path ends the authority before it: it is empty or begins with a slash. -/
def UriParts.EndsAuthority (parts : UriParts)
    : Prop :=
  parts.authority.isSome → parts.path = [] ∨ parts.path.head? = some '/'

-----------------------------------------------------------------------------------------
-- Splitting
-----------------------------------------------------------------------------------------

/-- A split has no end in its first part, and begins its second part with one. -/
theorem splitBefore_eq_iff {isEnd : Char → Bool} {before : List Char}
    : splitBefore isEnd cs = (before, rest)
      ↔ cs = before ++ rest ∧ (∀ c ∈ before, ¬isEnd c) ∧ ∀ c ∈ rest.head?, isEnd c := by
  constructor
  · intro parted
    obtain ⟨rfl, rfl⟩ := Prod.mk.inj parted
    refine ⟨List.takeWhile_append_dropWhile.symm, fun c member => ?_, fun c first => ?_⟩
    · simpa using List.mem_takeWhile_imp member
    · have ends := List.head?_dropWhile_not (!isEnd ·) cs
      rw [Option.mem_def.mp first] at ends
      simpa using ends
  · rintro ⟨rfl, noEnd, ends⟩
    have all : ∀ c ∈ before, !isEnd c := by simpa using noEnd
    have stops : rest.takeWhile (!isEnd ·) = [] ∧ rest.dropWhile (!isEnd ·) = rest := by
      cases rest with
      | nil => exact ⟨rfl, rfl⟩
      | cons c rest => simp [ends c rfl]
    rw [splitBefore, List.takeWhile_append_of_pos all, List.dropWhile_append_of_pos all, stops.1,
      stops.2, List.append_nil]

theorem behindMark?_eq_iff {mark : Char} {part : Option (List Char)}
    (begins : ∀ c ∈ cs.head?, c = mark)
    : behindMark? mark cs = part ↔ cs = marked mark part := by
  cases cs with
  | nil => cases part <;> simp [behindMark?, marked]
  | cons c rest =>
      obtain rfl := begins c rfl
      cases part <;> simp [behindMark?, marked]

/-- What stands before the first colon, if that stands before the marks of other parts, and what
stands behind it. -/
def takeScheme (cs : List Char)
    : Option (List Char) × List Char :=
  if (cs.takeWhile (!isPartMark ·)).contains ':' then
    let (scheme, rest) := splitBefore (· == ':') cs
    (some scheme, rest.drop 1)
  else (none, cs)

/-- What stands behind two slashes up to the marks of other parts, and what follows. -/
def takeAuthority (cs : List Char)
    : Option (List Char) × List Char :=
  match cs with
  | '/' :: '/' :: rest =>
      let (authority, rest) := splitBefore isPartMark rest
      (some authority, rest)
  | _ => (none, cs)

/-- A path, and the query and the fragment behind it. -/
def takePath (cs : List Char)
    : List Char × Option (List Char) × Option (List Char) :=
  let (beforeFragment, fragment) := splitBefore (· == '#') cs
  let (path, query) := splitBefore (· == '?') beforeFragment
  (path, behindMark? '?' query, behindMark? '#' fragment)

/-- A reference is taken apart from its front on. -/
theorem UriParts.ofText_eq
    : ofText cs
      = let (scheme, rest) := takeScheme cs
        let (authority, rest) := takeAuthority rest
        let (path, query, fragment) := takePath rest
        { scheme, authority, path, query, fragment } :=
  rfl

theorem takeScheme_eq_iff {scheme : Option (List Char)}
    : takeScheme cs = (scheme, rest)
      ↔ cs = schemeText scheme ++ rest
        ∧ (∀ s ∈ scheme, ∀ c ∈ s, c ≠ ':' ∧ ¬isPartMark c)
        ∧ (scheme = none → ':' ∉ rest.takeWhile (!isPartMark ·)) := by
  simp only [takeScheme, List.contains_iff_mem]
  constructor
  · intro taken
    split at taken
    · rename_i colon
      rcases parted : splitBefore (· == ':') cs with ⟨s, behind⟩
      rw [parted] at taken
      obtain ⟨rfl, rfl⟩ := Prod.mk.inj taken
      obtain ⟨rfl, noColon, ends⟩ := splitBefore_eq_iff.mp parted
      simp only [beq_iff_eq] at noColon ends
      have clear : ∀ c ∈ s, !isPartMark c := by
        rw [List.takeWhile_append] at colon
        split at colon
        · rename_i whole
          exact List.takeWhile_eq_self_iff.mp ((List.takeWhile_prefix _).eq_of_length whole)
        · exact absurd rfl (noColon ':' ((List.takeWhile_sublist _).mem colon))
      cases behind with
      | nil =>
          rw [List.append_nil] at colon
          exact absurd rfl (noColon ':' ((List.takeWhile_sublist _).mem colon))
      | cons c rest =>
          obtain rfl := ends c rfl
          refine ⟨by simp [schemeText], fun t same c member => ?_, nofun⟩
          obtain rfl := Option.some.inj same
          exact ⟨noColon c member, by simpa using clear c member⟩
    · rename_i noColon
      obtain ⟨rfl, rfl⟩ := Prod.mk.inj taken
      exact ⟨rfl, nofun, fun _ => noColon⟩
  · rintro ⟨rfl, clear, noColon⟩
    cases scheme with
    | none => simpa [schemeText] using noColon rfl
    | some s =>
        have parted : splitBefore (· == ':') (s ++ ':' :: rest) = (s, ':' :: rest) :=
          splitBefore_eq_iff.mpr
            ⟨rfl, fun c member => by simpa using (clear s rfl c member).1, by simp⟩
        have colon : ':' ∈ (s ++ ':' :: rest).takeWhile (!isPartMark ·) := by
          rw [List.takeWhile_append_of_pos fun c member => by simpa using (clear s rfl c member).2]
          simp [isPartMark]
        simp [schemeText, parted, colon]

theorem takeAuthority_eq_iff {authority : Option (List Char)}
    : takeAuthority cs = (authority, rest)
      ↔ cs = authorityText authority ++ rest
        ∧ (∀ a ∈ authority, (∀ c ∈ a, ¬isPartMark c) ∧ ∀ c ∈ rest.head?, isPartMark c)
        ∧ (authority = none → ¬['/', '/'] <+: rest) := by
  constructor
  · intro taken
    unfold takeAuthority at taken
    split at taken
    · rename_i behind
      rcases parted : splitBefore isPartMark behind with ⟨a, rest⟩
      obtain ⟨rfl, clear, ends⟩ := splitBefore_eq_iff.mp parted
      rw [parted] at taken
      obtain ⟨rfl, rfl⟩ := Prod.mk.inj taken
      refine ⟨rfl, fun a same => ?_, nofun⟩
      obtain rfl := Option.some.inj same
      exact ⟨clear, ends⟩
    · rename_i other
      obtain ⟨rfl, rfl⟩ := Prod.mk.inj taken
      refine ⟨rfl, nofun, fun _ ⟨behind, same⟩ => other behind same.symm⟩
  · rintro ⟨rfl, clear, other⟩
    cases authority with
    | none =>
        unfold takeAuthority
        split
        · rename_i behind same
          exact absurd ⟨behind, same.symm⟩ (other rfl)
        · rfl
    | some a =>
        have parted : splitBefore isPartMark (a ++ rest) = (a, rest) :=
          splitBefore_eq_iff.mpr ⟨rfl, clear a rfl⟩
        simp [takeAuthority, authorityText, parted]

theorem takePath_eq_iff {path : List Char} {query fragment : Option (List Char)}
    : takePath cs = (path, query, fragment)
      ↔ cs = path ++ marked '?' query ++ marked '#' fragment
        ∧ (∀ c ∈ path, c ≠ '?' ∧ c ≠ '#')
        ∧ ∀ q ∈ query, '#' ∉ q := by
  constructor
  · intro taken
    rcases fragmentParted : splitBefore (· == '#') cs with ⟨before, behind⟩
    rcases queryParted : splitBefore (· == '?') before with ⟨front, middle⟩
    simp only [takePath, fragmentParted, queryParted] at taken
    obtain ⟨rfl, behindTaken⟩ := Prod.mk.inj taken
    obtain ⟨queryTaken, fragmentTaken⟩ := Prod.mk.inj behindTaken
    obtain ⟨rfl, noHash, endsHash⟩ := splitBefore_eq_iff.mp fragmentParted
    obtain ⟨rfl, noQuestion, endsQuestion⟩ := splitBefore_eq_iff.mp queryParted
    simp only [beq_iff_eq] at noHash endsHash noQuestion endsQuestion
    rw [behindMark?_eq_iff endsQuestion] at queryTaken
    rw [behindMark?_eq_iff endsHash] at fragmentTaken
    subst queryTaken fragmentTaken
    refine ⟨rfl, fun c member => ⟨noQuestion c member, noHash c (by simp [member])⟩, ?_⟩
    rintro q rfl member
    exact noHash '#' (by simp [marked, member]) rfl
  · rintro ⟨rfl, pathClear, queryClear⟩
    have fragmentParted
        : splitBefore (· == '#') (path ++ marked '?' query ++ marked '#' fragment)
          = (path ++ marked '?' query, marked '#' fragment) := by
      refine splitBefore_eq_iff.mpr ⟨rfl, ?_, ?_⟩
      · cases query <;> grind [marked]
      · cases fragment <;> simp [marked]
    have queryParted
        : splitBefore (· == '?') (path ++ marked '?' query) = (path, marked '?' query) := by
      refine splitBefore_eq_iff.mpr ⟨rfl, by grind, ?_⟩
      cases query <;> simp [marked]
    have begins {mark : Char} {part : Option (List Char)}
        : behindMark? mark (marked mark part) = part := by
      cases part <;> simp [marked, behindMark?]
    simp only [takePath, fragmentParted, queryParted, begins]

section Ending
variable {path ending : List Char} (clear : ∀ c ∈ path, c ≠ '?' ∧ c ≠ '#')
  (ends : ∀ c ∈ ending.head?, c = '?' ∨ c = '#')
include clear ends

/-- The first segment of a path lasts as far as no part behind it begins. -/
theorem takeWhile_path_append
    : (path ++ ending).takeWhile (!isPartMark ·) = path.takeWhile (· ≠ '/') := by
  induction path with
  | nil =>
      cases ending with
      | nil => rfl
      | cons c rest => rcases ends c rfl with rfl | rfl <;> rfl
  | cons c path ih =>
      obtain ⟨noQuestion, noHash⟩ := clear c List.mem_cons_self
      have same : (!isPartMark c) = decide (c ≠ '/') := by
        rw [isPartMark, beq_false_of_ne noQuestion, beq_false_of_ne noHash]
        simp [beq_eq_decide]
      rw [List.cons_append, List.takeWhile_cons, List.takeWhile_cons, same,
        ih fun c member => clear c (List.mem_cons_of_mem _ member)]

theorem slashes_prefix_path_append
    : ['/', '/'] <+: path ++ ending ↔ ['/', '/'] <+: path := by
  have noSlash (rest : List Char) : '/' :: rest ≠ ending := by
    rintro rfl
    rcases ends '/' rfl with same | same <;> exact absurd same (by decide)
  match path with
  | [] =>
      constructor
      · rintro ⟨rest, same⟩
        exact absurd same (noSlash _)
      · nofun
  | [c] =>
      constructor
      · rintro ⟨rest, same⟩
        exact absurd (List.cons.inj same).2 (noSlash _)
      · rintro ⟨rest, same⟩
        nomatch (List.cons.inj same).2
  | c :: d :: path => simp [List.cons_prefix_cons]

theorem head?_path_append
    : (∀ c ∈ (path ++ ending).head?, isPartMark c) ↔ path = [] ∨ path.head? = some '/' := by
  cases path with
  | nil =>
      simp only [List.nil_append, true_or, iff_true]
      intro c first
      rcases ends c first with rfl | rfl <;> rfl
  | cons c path =>
      obtain ⟨noQuestion, noHash⟩ := clear c List.mem_cons_self
      simp [isPartMark, noQuestion, noHash]

end Ending

/-- What follows the path begins with the mark of a query or of a fragment. -/
theorem head?_ending {query fragment : Option (List Char)}
    : ∀ c ∈ (marked '?' query ++ marked '#' fragment).head?, c = '?' ∨ c = '#' := by
  cases query <;> cases fragment <;> simp [marked]

variable {parts : UriParts}

/-- The parts that a text is taken apart into are those that make it up, separated by their
marks. -/
theorem UriParts.ofText_eq_iff
    : ofText cs = parts ↔ cs = parts.text ∧ parts.Separated ∧ parts.EndsAuthority := by
  constructor
  · rintro rfl
    rcases schemeTaken : takeScheme cs with ⟨scheme, behindScheme⟩
    rcases authorityTaken : takeAuthority behindScheme with ⟨authority, behindAuthority⟩
    rcases pathTaken : takePath behindAuthority with ⟨path, query, fragment⟩
    have whole : ofText cs = ⟨scheme, authority, path, query, fragment⟩ := by
      simp only [ofText_eq, schemeTaken, authorityTaken, pathTaken]
    obtain ⟨rfl, schemeClear, noColon⟩ := takeScheme_eq_iff.mp schemeTaken
    obtain ⟨rfl, authorityClear, noSlashes⟩ := takeAuthority_eq_iff.mp authorityTaken
    obtain ⟨rfl, pathClear, queryClear⟩ := takePath_eq_iff.mp pathTaken
    rw [List.append_assoc] at noColon authorityClear noSlashes
    rw [whole]
    refine ⟨rfl,
      { scheme := schemeClear
        authority := fun a same => (authorityClear a same).1
        path := pathClear
        query := queryClear
        withoutAuthority := fun none => ?_
        withoutScheme := fun noScheme noAuthority => ?_ }, fun some => ?_⟩
    · rw [← slashes_prefix_path_append pathClear head?_ending]
      exact noSlashes none
    · obtain rfl : authority = none := noAuthority
      rw [← takeWhile_path_append pathClear head?_ending]
      exact noColon noScheme
    · obtain ⟨a, same⟩ := Option.isSome_iff_exists.mp some
      exact (head?_path_append pathClear head?_ending).mp (authorityClear a same).2
  · rintro ⟨rfl, separated, endsAuthority⟩
    have pathTaken : takePath parts.pathText = (parts.path, parts.query, parts.fragment) :=
      takePath_eq_iff.mpr ⟨rfl, separated.path, separated.query⟩
    have authorityTaken
        : takeAuthority (authorityText parts.authority ++ parts.pathText)
          = (parts.authority, parts.pathText) := by
      refine takeAuthority_eq_iff.mpr
        ⟨rfl, fun a same => ⟨separated.authority a same, ?_⟩, fun none => ?_⟩
      · rw [pathText, List.append_assoc, head?_path_append separated.path head?_ending]
        exact endsAuthority (Option.isSome_iff_exists.mpr ⟨a, same⟩)
      · rw [pathText, List.append_assoc, slashes_prefix_path_append separated.path head?_ending]
        exact separated.withoutAuthority none
    have schemeTaken
        : takeScheme parts.text
          = (parts.scheme, authorityText parts.authority ++ parts.pathText) := by
      refine takeScheme_eq_iff.mpr ⟨rfl, separated.scheme, fun noScheme => ?_⟩
      cases noAuthority : parts.authority with
      | some a => simp [authorityText, isPartMark]
      | none =>
          rw [authorityText, List.nil_append, pathText, List.append_assoc,
            takeWhile_path_append separated.path head?_ending]
          exact separated.withoutScheme noScheme noAuthority
    simp only [ofText_eq, schemeTaken, authorityTaken, pathTaken]

end Assay.Format
