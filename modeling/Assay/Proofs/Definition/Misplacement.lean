import Assay.Proofs.Definition.Exchange
import Assay.Proofs.Definition.Order
import Assay.Proofs.Definition.Tracing
import Assay.Proofs.Definition.Verdicts

/-! Keywords that the type of a definition cannot take. None of them is passed over, however deep
inside the definition it stands, but for a list of required names on an array.
-/

namespace Assay.Definition
open Assembly

-----------------------------------------------------------------------------------------
-- Misplaced keywords
-----------------------------------------------------------------------------------------

/-- A definition has a keyword that its type cannot take: one of another kind of schemas, or one of
leaves of other types. A list of required names on an array is not meant here. -/
inductive Misplaces (members : Members) : Keyword → Prop
  | ofLeaves {keyword} {kind : SchemaKind} (container : kind ≠ .simple)
    (typed : typeWord? members = some kind.word) (listed : keyword ∈ Keyword.ofLeaves)
    (present : (value? members keyword).isSome)
    : Misplaces members keyword
  | ofArrays {keyword} (other : typeWord? members ≠ some SchemaKind.array.word)
    (listed : keyword ∈ Keyword.ofArrays) (present : (value? members keyword).isSome)
    : Misplaces members keyword
  | ofObjects {keyword} (other : typeWord? members ≠ some SchemaKind.object.word)
    (listed : keyword ∈ Keyword.ofObjects) (present : (value? members keyword).isSome)
    : Misplaces members keyword
  | requiredNames {names} {type : SimpleType} (typed : typeWord? members = some type.word)
    (present : value? members .required = some (.list names))
    : Misplaces members .required
  | ofTexts {keyword} {type : SimpleType} (typed : typeWord? members = some type.word)
    (other : type ≠ .string) (listed : keyword ∈ [.pattern, .minLength, .maxLength])
    (present : (value? members keyword).isSome)
    : Misplaces members keyword
  | ofNumbers {keyword} {type : SimpleType} (typed : typeWord? members = some type.word)
    (other : type.isNumeric = false) (listed : keyword ∈ [.minimum, .maximum])
    (present : (value? members keyword).isSome)
    : Misplaces members keyword
  | flag {keyword} {type : SimpleType} (typed : typeWord? members = some type.word)
    (other : type.isNumeric = false) (listed : keyword ∈ [.exclusiveMinimum, .exclusiveMaximum])
    (present : value? members keyword = some (.bool true))
    : Misplaces members keyword
  | enumeration {type : SimpleType} (typed : typeWord? members = some type.word)
    (unenumerable : type = .null ∨ type = .any) (present : (value? members .enumeration).isSome)
    : Misplaces members .enumeration

variable {setting : Setting} {members : Members} {keyword : Keyword} {definition : Value}
  {path : Path}

/-- A well-formed definition has none of some keywords if it is not of the kind that takes them. -/
theorem lacks_of_wellFormed (wellFormed : WellFormed setting (.object members))
    : (∀ kind : SchemaKind, kind ≠ .simple → typeWord? members = some kind.word →
        Lacks members Keyword.ofLeaves)
      ∧ (typeWord? members ≠ some SchemaKind.array.word → Lacks members Keyword.ofArrays)
      ∧ (typeWord? members ≠ some SchemaKind.object.word → Lacks members Keyword.ofObjects) := by
  cases wellFormed with
  | leaf _ typed placed =>
      refine ⟨fun kind container other => ?_, fun _ => placed.left, fun _ => placed.right⟩
      exact absurd (Option.some.inj (typed.symm.trans other)) (word_ne_container _ container)
  | array _ typed placed =>
      exact ⟨fun _ _ _ => placed.left, fun other => absurd typed other, fun _ => placed.right⟩
  | object _ typed placed =>
      exact ⟨fun _ _ _ => placed.left, fun _ => placed.right, fun other => absurd typed other⟩

/-- The keywords of a well-formed leaf are well formed for the type that it states. -/
theorem leafFormed_of_wellFormed {type : SimpleType}
    (wellFormed : WellFormed setting (.object members))
    (typed : typeWord? members = some type.word)
    : (Given members .required fun value => isList value = false)
      ∧ LeafFormed setting members type := by
  cases wellFormed with
  | leaf _ stated _ unlisted formed =>
      obtain rfl := SimpleType.word_injective (Option.some.inj (stated.symm.trans typed))
      exact ⟨unlisted, formed⟩
  | array _ stated | object _ stated =>
      exact absurd (Option.some.inj (typed.symm.trans stated)) (word_ne_container _ (by decide))

/-- No keyword of a well-formed definition is misplaced, kind of keyword by kind. -/
theorem not_misplaces_of_wellFormed (wellFormed : WellFormed setting (.object members))
    : ¬Misplaces members keyword := by
  obtain ⟨leaves, arrays, objects⟩ := lacks_of_wellFormed wellFormed
  have absent {keywords : List Keyword} (lacks : Lacks members keywords)
      (listed : keyword ∈ keywords) : ¬(value? members keyword).isSome := by
    simp [lacks keyword listed]
  intro misplaces
  cases misplaces with
  | ofLeaves container typed listed present =>
      exact absent (leaves _ container typed) listed present
  | ofArrays other listed present => exact absent (arrays other) listed present
  | ofObjects other listed present => exact absent (objects other) listed present
  | requiredNames typed present =>
      nomatch (leafFormed_of_wellFormed wellFormed typed).1 _ present
  | ofTexts typed other listed present =>
      have formed := (leafFormed_of_wellFormed wellFormed typed).2
      obtain ⟨value, found⟩ := Option.isSome_iff_exists.mp present
      simp only [List.mem_cons, List.not_mem_nil, or_false] at listed
      rcases listed with rfl | rfl | rfl
      · exact other (formed.pattern value found).1
      · exact other (formed.minLength value found).1
      · exact other (formed.maxLength value found).1
  | ofNumbers typed other listed present =>
      have formed := (leafFormed_of_wellFormed wellFormed typed).2
      obtain ⟨value, found⟩ := Option.isSome_iff_exists.mp present
      simp only [List.mem_cons, List.not_mem_nil, or_false] at listed
      rcases listed with rfl | rfl
      · exact Bool.false_ne_true (other.symm.trans (formed.minimum value found).1)
      · exact Bool.false_ne_true (other.symm.trans (formed.maximum value found).1)
  | @flag _ type typed other listed present =>
      have formed := (leafFormed_of_wellFormed wellFormed typed).2
      have refused : ¬IsFlag type (.bool true) := by
        rintro (null | denied | ⟨-, numeric⟩)
        · nomatch null
        · nomatch denied
        · exact Bool.false_ne_true (other.symm.trans numeric)
      simp only [List.mem_cons, List.not_mem_nil, or_false] at listed
      rcases listed with rfl | rfl
      · exact refused (formed.exclusiveMinimum _ present)
      · exact refused (formed.exclusiveMaximum _ present)
  | enumeration typed unenumerable present =>
      have formed := (leafFormed_of_wellFormed wellFormed typed).2
      obtain ⟨value, found⟩ := Option.isSome_iff_exists.mp present
      obtain ⟨allowed, -, enumerates⟩ := formed.enumeration value found
      exact unenumerable.elim enumerates.notNull enumerates.notAny

-----------------------------------------------------------------------------------------
-- At any depth
-----------------------------------------------------------------------------------------

/-- What stands directly inside a well-formed definition is well formed. -/
theorem wellFormed_of_directlyInside {step : Step} {inner : Value}
    (wellFormed : WellFormed setting (.object members))
    (direct : (step, inner) ∈ directlyInside members)
    : WellFormed setting inner := by
  cases wellFormed with
  | leaf _ _ placed =>
      rw [directlyInside_of_leaf placed.left placed.right] at direct
      nomatch direct
  | array _ _ placed _ items =>
      rw [directlyInside_of_array placed.right] at direct
      simp only [itemsInside, Option.mem_toList, Option.map_eq_some_iff, Prod.mk.injEq,
        Option.filter_eq_some_iff] at direct
      obtain ⟨_, ⟨present, -⟩, -, rfl⟩ := direct
      exact items _ present
  | object _ _ placed _ properties patterns additional =>
      rw [directlyInside_of_object placed.right, List.mem_append, List.mem_append] at direct
      rcases direct with (declared | matched) | other
      · obtain ⟨entry, listed, same⟩ := List.mem_map.mp declared
        obtain ⟨-, rfl⟩ := Prod.mk.inj same
        exact properties entry listed
      · obtain ⟨entry, listed, same⟩ := List.mem_map.mp matched
        obtain ⟨-, rfl⟩ := Prod.mk.inj same
        exact patterns entry listed
      · simp only [additionalInside, Option.mem_toList, Option.map_eq_some_iff, Prod.mk.injEq,
          Option.filter_eq_some_iff] at other
        obtain ⟨_, ⟨present, object⟩, -, rfl⟩ := other
        exact additional _ present object

/-- Wherever a definition stands inside a well-formed one, it is well formed, by induction on the
way to it. -/
theorem wellFormed_of_standsAt {inner : Value} (wellFormed : WellFormed setting definition)
    (stands : StandsAt definition path inner)
    : WellFormed setting inner := by
  induction stands with
  | here => exact wellFormed
  | further direct _ ih => exact ih (wellFormed_of_directlyInside wellFormed direct)

/-- What compiling a definition comes to if it is not compiled: it is refused, or it stops. -/
theorem refused_or_stops (unformed : ¬WellFormed setting definition)
    : (∃ path refusal, (compile setting definition).outcome = .error (.refused path refusal))
      ∨ ∃ fault, Stops setting definition fault := by
  cases outcome : (compile setting definition).outcome with
  | ok schema => exact absurd (succeeds_iff_wellFormed.mp ⟨schema, outcome⟩) unformed
  | error obstruction =>
      cases obstruction with
      | refused path refusal => exact Or.inl ⟨path, refusal, rfl⟩
      | stopped fault => exact Or.inr ⟨fault, compile_stops_iff.mp outcome⟩

-----------------------------------------------------------------------------------------
-- Required names of arrays
-----------------------------------------------------------------------------------------

/-- Definitions of arrays that differ in `required` alone are compiled alike. -/
theorem compile_array_eq_of_same {others : Members}
    (same : ∀ keyword, keyword ≠ .required → value? members keyword = value? others keyword)
    (typed : typeWord? members = some SchemaKind.array.word)
    : compile setting (.object members) = compile setting (.object others) := by
  obtain ⟨stated, typing, reads⟩ := typeOf_of_typeWord typed
  have types : typeOf others = typeOf members := by
    simp only [typeOf, withKeyword, same .type (by decide)]
  have unlisted : Keyword.required ∉ Keyword.ofLeaves ++ Keyword.ofObjects := by decide
  have rejects (typeName : String)
      : rejectKeywords members typeName (Keyword.ofLeaves ++ Keyword.ofObjects)
        = rejectKeywords others typeName (Keyword.ofLeaves ++ Keyword.ofObjects) := by
    refine rejectKeywords_congr (fun keyword listed => ?_) typeName
    rw [same keyword (ne_of_mem_of_not_mem listed unlisted)]
  have arrays
      : arrayOf members (childAt setting .items members)
        = arrayOf others (childAt setting .items others) := by
    simp only [arrayOf, assignItems, assignSize, withKeyword, childAt_eq,
      same .items (by decide), same .minItems (by decide), same .maxItems (by decide)]
  simp only [compile, same .reference (by decide), types, typing, result_bind,
    display_of_text reads, if_true, rejects, arrays]

-----------------------------------------------------------------------------------------
-- Nothing else is passed over
-----------------------------------------------------------------------------------------

/-- A definition is not compiled if it, or a definition at any path inside it, has a keyword that
its type cannot take: it is refused, or it stops. The one keyword that is passed over is `required`
on an array: whatever it says, the array is compiled alike. -/
theorem misplaced_refused_but_required_of_array (setting : Setting)
    : (∀ definition path members keyword,
        StandsAt definition path (.object members)
        → Misplaces members keyword
        → (∀ schema, (compile setting definition).outcome ≠ .ok schema)
          ∧ ((∃ place refusal,
                (compile setting definition).outcome = .error (.refused place refusal))
            ∨ ∃ fault, Stops setting definition fault))
      ∧ ∀ members others,
          typeWord? members = some SchemaKind.array.word
          → (∀ keyword, keyword ≠ .required → value? members keyword = value? others keyword)
          → compile setting (.object members) = compile setting (.object others) := by
  refine ⟨fun definition path members keyword stands misplaces => ?_,
    fun members others typed same => compile_array_eq_of_same same typed⟩
  have unformed : ¬WellFormed setting definition := fun wellFormed =>
    not_misplaces_of_wellFormed (wellFormed_of_standsAt wellFormed stands) misplaces
  refine ⟨fun schema compiled => ?_, refused_or_stops unformed⟩
  exact unformed (succeeds_iff_wellFormed.mp ⟨schema, compiled⟩)

/-- A size on a member that is a text is not passed over, but the names that an array calls required
are. -/
theorem size_of_text_refused_but_names_of_array
    : (∀ schema,
        (compile ⟨true, defaultRegistry, .builtIn⟩ (.object
          [("type", .string "object"),
            ("properties", .object
              [("a", .object [("type", .string "string"), ("minItems", .int 1)])])])).outcome
        ≠ .ok schema)
      ∧ compile ⟨true, defaultRegistry, .builtIn⟩ (.object
          [("type", .string "array"), ("required", .list [.string "a"])])
        = compile ⟨true, defaultRegistry, .builtIn⟩ (.object [("type", .string "array")]) := by
  obtain ⟨refused, dropped⟩ :=
    misplaced_refused_but_required_of_array ⟨true, defaultRegistry, .builtIn⟩
  constructor
  · refine (refused _ [.property "a"] [("type", .string "string"), ("minItems", .int 1)] .minItems
      (.further (List.Mem.head _) (.here _)) (.ofArrays (by decide) (by decide) rfl)).1
  · refine dropped _ _ rfl fun keyword other => ?_
    cases keyword with
    | required => exact absurd rfl other
    | _ => rfl

end Assay.Definition
