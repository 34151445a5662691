import Assay.Proofs.Definition.ContainerAcceptance
import Assay.Proofs.Definition.LeafAcceptance
import Assay.Proofs.Definition.Meaning

/-! Exactly the well-formed definitions compile. What a definition is refused for is a condition on
one of its keywords, in itself or in a definition inside it.
-/

namespace Assay.Definition
open Assembly

variable {α : Type} {setting : Setting} {members : Members}

/-- The word for a type comes from a text that the type is read from. -/
theorem typeOf_of_typeWord {word : String} (typed : typeWord? members = some word)
    : ∃ stated, typeOf members = result stated ∧ stated.text? = some word := by
  unfold typeWord? at typed
  unfold typeOf withKeyword
  cases present : value? members .type with
  | none =>
      rw [present] at typed
      exact ⟨_, rfl, typed⟩
  | some stated =>
      rw [present] at typed
      have text : isText stated := Option.isSome_iff_exists.mpr ⟨word, typed⟩
      exact ⟨stated, if_pos text, typed⟩

theorem typeOf_builds_of_typeWord {word : String} (typed : typeWord? members = some word)
    : ∃ stated, (typeOf members).Builds stated ∧ stated.text? = some word := by
  obtain ⟨stated, typing, reads⟩ := typeOf_of_typeWord typed
  exact ⟨stated, by rw [typing, result_builds_iff], reads⟩

/-- The word for a kind of containers displays as it is. -/
theorem display_of_text {stated : Value} {kind : SchemaKind}
    (reads : stated.text? = some kind.word)
    : stated.display = kind.word := by
  cases stated with
  | string word => exact Option.some.inj reads
  | foreign thing =>
      cases thing with
      | policy policy =>
          refine absurd (Option.some.inj reads) ?_
          cases policy <;> cases kind <;> decide
      | _ => nomatch reads
  | _ => nomatch reads

theorem rejectRequiredList_succeeds_iff {typeName : String}
    : (rejectRequiredList members typeName).Succeeds
      ↔ Given members .required fun value => isList value = false := by
  unfold rejectRequiredList Given
  cases value? members .required with
  | none => simp
  | some value => cases list : isList value <;> simp [list]

theorem bind_complete_succeeds_iff {assembly : Assembly α} {schema : α → Schema}
    : (assembly >>= fun value => complete (schema value)).Succeeds ↔ assembly.Succeeds := by
  simp only [bind_succeeds_iff, complete_succeeds, and_true]
  rfl

/-- What compiling a definition asks for, by what its type displays as. -/
theorem compile_succeeds_iff_of_typed {stated : Value} (typed : (typeOf members).Builds stated)
    : (compile setting (.object members)).Succeeds
      ↔ value? members .reference = none
        ∧ if stated.display = SchemaKind.array.word then
            Lacks members (Keyword.ofLeaves ++ Keyword.ofObjects)
            ∧ (arrayOf members (childAt setting .items members)).Succeeds
          else if stated.display = SchemaKind.object.word then
            Lacks members (Keyword.ofLeaves ++ Keyword.ofArrays)
            ∧ (objectOf members (entriesAt setting .properties members)
                (entriesAt setting .patternProperties members)
                (childAt setting .additionalProperties members)).Succeeds
          else
            Lacks members (Keyword.ofArrays ++ Keyword.ofObjects)
            ∧ (Given members .required fun value => isList value = false)
            ∧ (leafOf setting members stated).Succeeds := by
  rw [compile]
  cases reference : value? members .reference with
  | some value => simp [bind_succeeds_iff]
  | none =>
      simp only [Option.isSome_none, Bool.false_eq_true, if_false, true_and]
      rw [bind_succeeds_iff_of_builds typed, caught_succeeds_iff]
      have placed {next : Unit → Assembly Schema} {rest : Prop} (keywords : List Keyword)
          (later : (next ()).Succeeds ↔ rest)
          : (rejectKeywords members stated.display keywords >>= next).Succeeds
            ↔ Lacks members keywords ∧ rest :=
        bind_succeeds_iff_and rejectKeywords_succeeds_iff fun _ => later
      split
      · exact placed _ bind_complete_succeeds_iff
      · split
        · exact placed _ bind_complete_succeeds_iff
        · refine placed _ ?_
          exact bind_succeeds_iff_and rejectRequiredList_succeeds_iff fun _ =>
            bind_complete_succeeds_iff

/-- A definition that compiles has a type that can be read. -/
theorem typed_of_succeeds (succeeds : (compile setting (.object members)).Succeeds)
    : ∃ stated, (typeOf members).Builds stated := by
  rw [compile] at succeeds
  split at succeeds
  · obtain ⟨value, refused, -⟩ := bind_succeeds_iff.mp succeeds
    exact absurd refused not_refuse_builds
  · obtain ⟨-, -, succeeds⟩ := bind_succeeds_iff.mp succeeds
    obtain ⟨stated, typed, -⟩ := bind_succeeds_iff.mp succeeds
    exact ⟨stated, typed⟩

/-- A leaf is only made of a simple type. -/
theorem simple_of_leafOf_succeeds {stated : Value}
    (succeeds : (leafOf setting members stated).Succeeds)
    : ∃ type : SimpleType, stated.text? = some type.word := by
  obtain ⟨leaf, made, -⟩ := bind_succeeds_iff.mp succeeds
  obtain ⟨type, reads, -⟩ := ofFields_type_eq_ok_iff.mp (assigned_builds_iff.mp made)
  exact ⟨type, reads⟩

/-- A definition that compiles is well formed if what stands inside it is, wherever it compiles. -/
theorem wellFormed_of_succeeds
    (inside
      : ∀ inner, Inside inner (.object members) → (compile setting inner).Succeeds
          → WellFormed setting inner)
    (succeeds : (compile setting (.object members)).Succeeds)
    : WellFormed setting (.object members) := by
  obtain ⟨stated, typed⟩ := typed_of_succeeds succeeds
  obtain ⟨text, word⟩ := typeOf_builds typed
  obtain ⟨unreferenced, rest⟩ := (compile_succeeds_iff_of_typed typed).mp succeeds
  split at rest
  · rename_i displayed
    obtain ⟨placed, array⟩ := rest
    obtain ⟨formed, items⟩ := arrayOf_succeeds_iff.mp array
    exact .array unreferenced (word.trans (text_of_display text displayed)) placed formed
      fun inner present => inside inner (.child present) (items inner present)
  · split at rest
    · rename_i displayed
      obtain ⟨placed, object⟩ := rest
      obtain ⟨formed, declared, matched, additional⟩ := objectOf_succeeds_iff.mp object
      exact .object unreferenced (word.trans (text_of_display text displayed)) placed formed
        (fun entry listed => inside entry.2 (.entry listed) (declared entry listed))
        (fun entry listed => inside entry.2 (.entry listed) (matched entry listed))
        fun inner present object =>
          inside inner (.child present) (additional inner present object)
    · obtain ⟨placed, unlisted, leaf⟩ := rest
      obtain ⟨type, reads⟩ := simple_of_leafOf_succeeds leaf
      exact .leaf unreferenced (word.trans reads) placed unlisted
        ((leafOf_succeeds_iff reads).mp leaf)

/-- A well-formed definition compiles if what stands inside it does, wherever it is well formed. -/
theorem succeeds_of_wellFormed
    (inside
      : ∀ inner, Inside inner (.object members) → WellFormed setting inner
          → (compile setting inner).Succeeds)
    (wellFormed : WellFormed setting (.object members))
    : (compile setting (.object members)).Succeeds := by
  have text {stated : Value} {word : String} (reads : stated.text? = some word)
      : isText stated := Option.isSome_iff_exists.mpr ⟨word, reads⟩
  cases wellFormed with
  | leaf unreferenced typed placed unlisted formed =>
      obtain ⟨stated, built, reads⟩ := typeOf_builds_of_typeWord typed
      have simple (kind : SchemaKind) (container : kind ≠ .simple)
          : stated.display ≠ kind.word := by
        intro displayed
        have same := reads.symm.trans (text_of_display (text reads) displayed)
        exact word_ne_container _ container (Option.some.inj same)
      rw [compile_succeeds_iff_of_typed built, if_neg (simple .array nofun),
        if_neg (simple .object nofun)]
      exact ⟨unreferenced, placed, unlisted, (leafOf_succeeds_iff reads).mpr formed⟩
  | array unreferenced typed placed formed items =>
      obtain ⟨stated, built, reads⟩ := typeOf_builds_of_typeWord typed
      rw [compile_succeeds_iff_of_typed built, if_pos (display_of_text reads)]
      refine ⟨unreferenced, placed, arrayOf_succeeds_iff.mpr ⟨formed, fun inner present => ?_⟩⟩
      exact inside inner (.child present) (items inner present)
  | object unreferenced typed placed formed properties patterns additional =>
      obtain ⟨stated, built, reads⟩ := typeOf_builds_of_typeWord typed
      have displayed := display_of_text reads
      rw [compile_succeeds_iff_of_typed built, displayed, if_neg (by decide), if_pos rfl]
      refine ⟨unreferenced, placed, objectOf_succeeds_iff.mpr ⟨formed, ?_, ?_, ?_⟩⟩
      · exact fun entry listed => inside entry.2 (.entry listed) (properties entry listed)
      · exact fun entry listed => inside entry.2 (.entry listed) (patterns entry listed)
      · exact fun inner present object =>
          inside inner (.child present) (additional inner present object)

/-- Compiling a definition succeeds exactly if the definition is well formed, by induction on the
definitions inside it. -/
theorem succeeds_iff_wellFormed {definition : Value}
    : (compile setting definition).Succeeds ↔ WellFormed setting definition := by
  induction definition using insideInduction with
  | step definition ih =>
      cases definition with
      | object members =>
          exact ⟨wellFormed_of_succeeds fun inner inside => (ih inner inside).mp,
            succeeds_of_wellFormed fun inner inside => (ih inner inside).mpr⟩
      | _ => exact iff_of_false not_refuse_succeeds nofun

/-- A definition compiles to a schema exactly if it is well formed. -/
theorem compile_succeeds_iff_wellFormed (setting : Setting) (definition : Value)
    : (∃ schema, (compile setting definition).outcome = .ok schema)
      ↔ WellFormed setting definition :=
  succeeds_iff_wellFormed

end Assay.Definition
