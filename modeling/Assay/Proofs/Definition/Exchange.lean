import Assay.Proofs.Definition.Outcomes

/-! Definitions that are edited in one place. Compiling a definition depends on what it says under
keywords alone, and on the definitions inside it only through what these compile to, so that any of
them can be exchanged for one that compiles alike.
-/

namespace Assay

namespace Keyword

/-- All keywords. -/
def all : List Keyword :=
  [.reference, .type] ++ ofLeaves ++ ofArrays ++ ofObjects ++ [.required]

/-- The keyword that is written as a word. -/
def ofWord? (word : String)
    : Option Keyword :=
  all.find? (·.word = word)

theorem ofWord?_word (keyword : Keyword)
    : ofWord? keyword.word = some keyword := by
  cases keyword <;> rfl

theorem word_injective {keyword other : Keyword} (same : keyword.word = other.word)
    : keyword = other :=
  Option.some.inj (by rw [← ofWord?_word, ← ofWord?_word, same])

end Keyword

namespace Definition
open Assembly

variable {setting : Setting} {members others : Members} {keyword : Keyword}

-----------------------------------------------------------------------------------------
-- Definitions that say the same
-----------------------------------------------------------------------------------------

/-- Two definitions can be exchanged for each other inside a third one: they compile alike, and both
call themselves required or neither does. -/
inductive Exchangeable (setting : Setting) : Value → Value → Prop
  | intro {members others : Members}
    (compiled : compile setting (.object members) = compile setting (.object others))
    (required : callsItselfRequired (.object members) = callsItselfRequired (.object others))
    : Exchangeable setting (.object members) (.object others)

namespace Exchangeable

variable {first second : Value}

theorem compile_eq (alike : Exchangeable setting first second)
    : compile setting first = compile setting second := by
  obtain ⟨compiled, -⟩ := alike
  exact compiled

theorem required_eq (alike : Exchangeable setting first second)
    : callsItselfRequired first = callsItselfRequired second := by
  obtain ⟨-, required⟩ := alike
  exact required

end Exchangeable

/-- What two definitions say under a keyword comes to the same: they say the same, or what they say
differs in one definition that can be exchanged, or one of them leaves out whether it is required,
which is for the definition around it to know. -/
inductive SaysAlike (setting : Setting) : Keyword → Option Value → Option Value → Prop
  | same {keyword value} : SaysAlike setting keyword value value
  | child {keyword first second} (place : keyword = .items ∨ keyword = .additionalProperties)
    (alike : Exchangeable setting first second)
    : SaysAlike setting keyword (some first) (some second)
  | entry {keyword name first second before after}
    (place : keyword = .properties ∨ keyword = .patternProperties)
    (alike : Exchangeable setting first second)
    : SaysAlike setting keyword (some (.object (before ++ (name, first) :: after)))
        (some (.object (before ++ (name, second) :: after)))
  | flag {required} : SaysAlike setting .required (some (.bool required)) none

namespace SaysAlike

variable {first second : Option Value}

/-- Keywords under which no definitions stand say the same, but for whether the definition itself is
required. -/
theorem eq_of_plain (alike : SaysAlike setting keyword first second)
    (plain
      : keyword ∉ [.items, .additionalProperties, .properties, .patternProperties, .required])
    : first = second := by
  simp only [List.mem_cons, List.not_mem_nil, or_false, not_or] at plain
  obtain ⟨items, additional, properties, patterns, required⟩ := plain
  cases alike with
  | same => rfl
  | child place => exact absurd place (not_or.mpr ⟨items, additional⟩)
  | entry place => exact absurd place (not_or.mpr ⟨properties, patterns⟩)
  | flag => exact absurd rfl required

/-- All keywords but `required` are present alike. -/
theorem isSome_eq (alike : SaysAlike setting keyword first second) (plain : keyword ≠ .required)
    : first.isSome = second.isSome := by
  cases alike with
  | same | child | entry => rfl
  | flag => exact absurd rfl plain

end SaysAlike

-----------------------------------------------------------------------------------------
-- The parts of a compilation
-----------------------------------------------------------------------------------------

theorem rejectKeywords_congr {keywords : List Keyword}
    (present
      : ∀ keyword ∈ keywords, (value? members keyword).isSome = (value? others keyword).isSome)
    (typeName : String)
    : rejectKeywords members typeName keywords = rejectKeywords others typeName keywords := by
  unfold rejectKeywords
  rw [List.find?_congr present]

theorem leafOf_congr
    (same : ∀ keyword ∈ Keyword.ofLeaves, value? members keyword = value? others keyword)
    (type : Value)
    : leafOf setting members type = leafOf setting others type := by
  simp only [leafOf, assignKeyword, assignFlag, withKeyword, same .pattern (by decide),
    same .format (by decide), same .minLength (by decide), same .maxLength (by decide),
    same .minimum (by decide), same .maximum (by decide), same .exclusiveMinimum (by decide),
    same .exclusiveMaximum (by decide), same .enumeration (by decide)]

theorem assignItems_congr
    (alike : SaysAlike setting .items (value? members .items) (value? others .items))
    (node : ArrayNode Schema)
    : assignItems members (childAt setting .items members) node
      = assignItems others (childAt setting .items others) node := by
  simp only [assignItems, withKeyword, childAt_eq]
  generalize value? members .items = first, value? others .items = second at alike ⊢
  cases alike with
  | same => rfl
  | child _ alike =>
      obtain ⟨compiled, -⟩ := alike
      simp only [Option.map_some, compiled]
      rfl
  | entry place => exact absurd place (by decide)

theorem assignAdditional_congr
    (alike
      : SaysAlike setting .additionalProperties (value? members .additionalProperties)
          (value? others .additionalProperties))
    (node : ObjectNode Schema)
    : assignAdditional members (childAt setting .additionalProperties members) node
      = assignAdditional others (childAt setting .additionalProperties others) node := by
  simp only [assignAdditional, withKeyword, childAt_eq]
  generalize value? members .additionalProperties = first,
    value? others .additionalProperties = second at alike ⊢
  cases alike with
  | same => rfl
  | child _ alike =>
      obtain ⟨compiled, -⟩ := alike
      simp only [Option.map_some, compiled]
  | entry place => exact absurd place (by decide)

theorem entriesAt_congr
    (alike : SaysAlike setting keyword (value? members keyword) (value? others keyword))
    (place : keyword = .properties ∨ keyword = .patternProperties)
    : entriesAt setting keyword members = entriesAt setting keyword others := by
  simp only [entriesAt_eq, definitionsIn]
  generalize value? members keyword = first, value? others keyword = second at alike ⊢
  cases alike with
  | same => rfl
  | child other => rcases place with rfl | rfl <;> exact absurd other (by decide)
  | entry _ alike =>
      simp only [List.map_append, List.map_cons, entryOf, alike.compile_eq, alike.required_eq]
  | flag => exact absurd place (by decide)

theorem expectObject_congr
    (alike : SaysAlike setting keyword (value? members keyword) (value? others keyword))
    (place : keyword = .properties ∨ keyword = .patternProperties)
    : expectObject members keyword = expectObject others keyword := by
  simp only [expectObject, withKeyword]
  generalize value? members keyword = first, value? others keyword = second at alike ⊢
  cases alike with
  | same => rfl
  | child other => rcases place with rfl | rfl <;> exact absurd other (by decide)
  | entry => rfl
  | flag => exact absurd place (by decide)

/-- That a definition is required itself is for the definition around it, and asks for no names. -/
theorem listedRequired_congr
    (alike : SaysAlike setting .required (value? members .required) (value? others .required))
    : listedRequired members = listedRequired others := by
  simp only [listedRequired, withKeyword]
  generalize value? members .required = first, value? others .required = second at alike ⊢
  cases alike with
  | same => rfl
  | child place | entry place => exact absurd place (by decide)
  | flag => rfl

theorem rejectRequiredList_congr
    (alike : SaysAlike setting .required (value? members .required) (value? others .required))
    (typeName : String)
    : rejectRequiredList members typeName = rejectRequiredList others typeName := by
  simp only [rejectRequiredList]
  generalize value? members .required = first, value? others .required = second at alike ⊢
  cases alike with
  | same => rfl
  | child place | entry place => exact absurd place (by decide)
  | flag => rfl

-----------------------------------------------------------------------------------------
-- Whole definitions
-----------------------------------------------------------------------------------------

/-- Definitions that say the same under every keyword compile alike: the same parts are completed in
the same order, and the outcome is the same. -/
theorem compile_congr
    (alike
      : ∀ keyword, SaysAlike setting keyword (value? members keyword) (value? others keyword))
    : compile setting (.object members) = compile setting (.object others) := by
  have plain (keyword : Keyword)
      (plain
        : keyword ∉ [.items, .additionalProperties, .properties, .patternProperties, .required])
      : value? members keyword = value? others keyword :=
    (alike keyword).eq_of_plain plain
  have present (keyword : Keyword) (other : keyword ≠ .required)
      : (value? members keyword).isSome = (value? others keyword).isSome :=
    (alike keyword).isSome_eq other
  have rejects (keywords : List Keyword) (unlisted : Keyword.required ∉ keywords)
      (typeName : String)
      : rejectKeywords members typeName keywords = rejectKeywords others typeName keywords :=
    rejectKeywords_congr
      (fun keyword listed => present keyword (ne_of_mem_of_not_mem listed unlisted)) typeName
  have types : typeOf members = typeOf others := by
    simp only [typeOf, withKeyword, plain .type (by decide)]
  have leaves (type : Value) : leafOf setting members type = leafOf setting others type :=
    leafOf_congr (fun keyword listed => plain keyword (by revert keyword; decide)) type
  have arrays
      : arrayOf members (childAt setting .items members)
        = arrayOf others (childAt setting .items others) := by
    simp only [arrayOf, assignItems_congr (alike .items), assignSize, withKeyword,
      plain .minItems (by decide), plain .maxItems (by decide)]
  have objects
      : objectOf members (entriesAt setting .properties members)
          (entriesAt setting .patternProperties members)
          (childAt setting .additionalProperties members)
        = objectOf others (entriesAt setting .properties others)
            (entriesAt setting .patternProperties others)
            (childAt setting .additionalProperties others) := by
    simp only [objectOf, entriesAt_congr (alike .properties) (by decide),
      entriesAt_congr (alike .patternProperties) (by decide),
      expectObject_congr (alike .properties) (by decide),
      expectObject_congr (alike .patternProperties) (by decide),
      listedRequired_congr (alike .required),
      assignAdditional_congr (alike .additionalProperties)]
  simp only [compile, plain .reference (by decide), types, arrays, objects, leaves,
    rejects (Keyword.ofLeaves ++ Keyword.ofObjects) (by decide),
    rejects (Keyword.ofLeaves ++ Keyword.ofArrays) (by decide),
    rejects (Keyword.ofArrays ++ Keyword.ofObjects) (by decide),
    rejectRequiredList_congr (alike .required)]

-----------------------------------------------------------------------------------------
-- Keywords of edited definitions
-----------------------------------------------------------------------------------------

theorem value?_putMember (members : Members) (keyword other : Keyword) (value : Value)
    : value? (Value.putMember members keyword.word value) other
      = if other = keyword then some value else value? members other := by
  by_cases same : other = keyword
  · rw [if_pos same, same]
    exact Value.lookup_putMember_self members keyword.word value
  · rw [if_neg same]
    exact Value.lookup_putMember_of_ne members value
      fun words => same (Keyword.word_injective words)

/-- What is said under a keyword is kept or dropped with its name. -/
theorem value?_filter (keeps : String → Bool) (members : Members) (keyword : Keyword)
    : value? (members.filter fun entry => keeps entry.1) keyword
      = if keeps keyword.word then value? members keyword else none := by
  induction members with
  | nil => simp [value?, Value.member?]
  | cons entry rest ih =>
      obtain ⟨name, value⟩ := entry
      rw [List.filter_cons, value?_cons]
      by_cases here : name = keyword.word
      · subst here
        cases kept : keeps keyword.word with
        | true => simp only [if_true, value?_cons]
        | false => simpa [kept] using ih
      · rw [if_neg here, ← ih]
        split
        · rw [value?_cons, if_neg here]
        · rfl

-----------------------------------------------------------------------------------------
-- Edits inside a definition
-----------------------------------------------------------------------------------------

/-- A definition in which one definition is edited: itself, or one at any depth inside it. What
stands around the edited one is left as it is. -/
inductive Edited (edit : Value → Value → Prop) : Value → Value → Prop
  | here {first second} (edited : edit first second) : Edited edit first second
  | child {members keyword first second}
    (place : keyword = .items ∨ keyword = .additionalProperties)
    (found : value? members keyword = some first) (edited : Edited edit first second)
    : Edited edit (.object members) (.object (Value.putMember members keyword.word second))
  | entry {members keyword name first second before after}
    (place : keyword = .properties ∨ keyword = .patternProperties)
    (found : value? members keyword = some (.object (before ++ (name, first) :: after)))
    (edited : Edited edit first second)
    : Edited edit (.object members)
        (.object
          (Value.putMember members keyword.word (.object (before ++ (name, second) :: after))))

/-- A definition can be exchanged for one that says something else under one keyword, where this
comes to the same. -/
theorem exchangeable_putMember {value : Value} (plain : keyword ≠ .required)
    (alike : SaysAlike setting keyword (value? members keyword) (some value))
    : Exchangeable setting (.object members)
        (.object (Value.putMember members keyword.word value)) := by
  constructor
  · refine compile_congr fun other => ?_
    rw [value?_putMember]
    by_cases same : other = keyword
    · rw [if_pos same, same]
      exact alike
    · rw [if_neg same]
      exact .same
  · simp only [callsItselfRequired, value?_putMember, if_neg plain.symm]

/-- An edit that exchanges a definition exchanges every definition around it, by induction on the
way to the edited one. -/
theorem exchangeable_of_edited {edit : Value → Value → Prop} {first second : Value}
    (exchanges : ∀ {first second}, edit first second → Exchangeable setting first second)
    (edited : Edited edit first second)
    : Exchangeable setting first second := by
  induction edited with
  | here edited => exact exchanges edited
  | child place found _ ih =>
      refine exchangeable_putMember (fun required => ?_) ?_
      · subst required
        exact absurd place (by decide)
      · rw [found]
        exact .child place ih
  | entry place found _ ih =>
      refine exchangeable_putMember (fun required => ?_) ?_
      · subst required
        exact absurd place (by decide)
      · rw [found]
        exact .entry place ih

end Definition

end Assay
