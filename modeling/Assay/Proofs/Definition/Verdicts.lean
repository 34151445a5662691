import Assay.Proofs.Definition.Faults
import Assay.Proofs.Leaf.Stopping

/-! A definition that is not compiled is refused, except where compiling it comes to a text that
cannot be read as a pattern for another reason than a defect of its own. Everything compiled before
that text is well formed.
-/

namespace Assay.Definition
open Assembly

-----------------------------------------------------------------------------------------
-- How far compiling gets
-----------------------------------------------------------------------------------------

/-- A definition states a type, without a reference and without keywords that are out of place
there. -/
structure Headed (members : Members) (word : String) (misplaced : List Keyword) : Prop where
  unreferenced : value? members .reference = none
  typed : typeWord? members = some word
  placed : Lacks members misplaced

/-- Entries can be declared as the members of an object. -/
structure Declarable (setting : Setting) (entries : Members) : Prop where
  wellFormed : ∀ entry ∈ entries, WellFormed setting entry.2
  named : ∀ entry ∈ entries, entry.1 ≠ ""
  distinct : (entries.map Prod.fst).Nodup

/-- Entries can be added as the patterns of an object. -/
structure Matchable (setting : Setting) (entries : Members) : Prop where
  wellFormed : ∀ entry ∈ entries, WellFormed setting entry.2
  patterns : ∀ entry ∈ entries, ∃ pattern, Pattern.compile entry.1 = .ok pattern

/-- Compiling the definition of an object gets as far as its patterns: its declared members and its
required ones are well formed, and its patterns stand in an object. -/
structure GetsToPatterns (setting : Setting) (members : Members) : Prop where
  properties : Given members .properties fun value => isObject value
  declared : Declarable setting (definitionsIn members .properties)
  required : Given members .required IsRequirement
  patternProperties : Given members .patternProperties fun value => isObject value

/-- Compiling a definition is stopped by a fault: at the pattern of a leaf, at a pattern of an
object, or inside a definition that compiling gets to. -/
inductive Stops (setting : Setting) : Value → Fault → Prop
  | leaf {members fault}
    (headed : Headed members SimpleType.string.word (Keyword.ofArrays ++ Keyword.ofObjects))
    (unlisted : Given members .required fun value => isList value = false)
    (unread : HasUnreadPattern members fault)
    : Stops setting (.object members) fault
  | items {members inner fault}
    (headed : Headed members SchemaKind.array.word (Keyword.ofLeaves ++ Keyword.ofObjects))
    (present : value? members .items = some inner)
    (stops : Stops setting inner fault)
    : Stops setting (.object members) fault
  | property {members before entry after fault}
    (headed : Headed members SchemaKind.object.word (Keyword.ofLeaves ++ Keyword.ofArrays))
    (listed : definitionsIn members .properties = before ++ entry :: after)
    (earlier : Declarable setting before)
    (stops : Stops setting entry.2 fault)
    : Stops setting (.object members) fault
  | pattern {members before entry after fault}
    (headed : Headed members SchemaKind.object.word (Keyword.ofLeaves ++ Keyword.ofArrays))
    (reached : GetsToPatterns setting members)
    (listed : definitionsIn members .patternProperties = before ++ entry :: after)
    (earlier : Matchable setting before)
    (stops : Stops setting entry.2 fault)
    : Stops setting (.object members) fault
  | name {members before entry after fault}
    (headed : Headed members SchemaKind.object.word (Keyword.ofLeaves ++ Keyword.ofArrays))
    (reached : GetsToPatterns setting members)
    (listed : definitionsIn members .patternProperties = before ++ entry :: after)
    (earlier : Matchable setting before)
    (wellFormed : WellFormed setting entry.2)
    (unread : Pattern.compile entry.1 = .error (.fault fault))
    : Stops setting (.object members) fault
  | additional {members inner fault}
    (headed : Headed members SchemaKind.object.word (Keyword.ofLeaves ++ Keyword.ofArrays))
    (reached : GetsToPatterns setting members)
    (matched : Matchable setting (definitionsIn members .patternProperties))
    (present : value? members .additionalProperties = some inner)
    (stops : Stops setting inner fault)
    : Stops setting (.object members) fault

-----------------------------------------------------------------------------------------
-- Objects
-----------------------------------------------------------------------------------------

variable {α : Type} {setting : Setting} {members : Members} {fault : Fault}

theorem declared_iff {entries : Members}
    : (addProperties {} (entries.map (entryOf setting))).Succeeds
      ↔ Declarable setting entries := by
  simp only [addProperties_succeeds_iff, succeeds_iff_wellFormed]
  constructor
  · rintro ⟨wellFormed, named, distinct, -⟩
    exact ⟨wellFormed, named, distinct⟩
  · rintro ⟨wellFormed, named, distinct⟩
    exact ⟨wellFormed, named, distinct, fun _ _ => rfl⟩

theorem matched_iff {entries : Members} {node : ObjectNode Schema}
    : (addPatterns node (entries.map (entryOf setting))).Succeeds ↔ Matchable setting entries := by
  simp only [addPatterns_succeeds_iff, succeeds_iff_wellFormed]
  exact ⟨fun ⟨wellFormed, patterns⟩ => ⟨wellFormed, patterns⟩,
    fun ⟨wellFormed, patterns⟩ => ⟨wellFormed, patterns⟩⟩

/-- Required names are listed and assigned without stopping, so that what comes behind decides. -/
theorem required_then_stops_iff {flagged : List Value} (named : ∀ value ∈ flagged, IsName value)
    {node : ObjectNode Schema} {next : ObjectNode Schema → Assembly α} {rest : Prop}
    (later : ∀ node, (next node).Stops fault ↔ rest)
    : (do
        let listed ← listedRequired members
        let node ← assigned ((ObjectNode.setRequired (.list (flagged ++ listed))).made node)
        next node).Stops fault
      ↔ Given members .required IsRequirement ∧ rest := by
  have assigns (listed : List Value)
      : (do
          let node ← assigned ((ObjectNode.setRequired (.list (flagged ++ listed))).made node)
          next node).Stops fault
        ↔ (∀ value ∈ listed, IsName value) ∧ rest := by
    have never
        : NeverStops
            (assigned ((ObjectNode.setRequired (.list (flagged ++ listed))).made node)) := by
      refine .assigned fun other stopped => ?_
      obtain ⟨-, -, ends⟩ := ObjectNode.setRequired_eq_stopped_iff.mp stopped
      cases ends
    refine never.bind_stops_iff ?_ later
    rw [setRequired_succeeds_iff, List.forall_mem_append]
    exact and_iff_right named
  rw [bind_stops_iff, or_iff_right (listedRequired_neverStops fault), ← listed_isName_iff]
  simp only [assigns, ← and_assoc, exists_and_right]

/-- Where compiling the definition of an object stops, by the part of the definition that it has
got to. -/
theorem objectOf_stops_iff
    : (objectOf members (entriesAt setting .properties members)
        (entriesAt setting .patternProperties members)
        (childAt setting .additionalProperties members)).Stops fault
      ↔ (Given members .properties fun value => isObject value)
        ∧ ((∃ before entry after,
              definitionsIn members .properties = before ++ entry :: after
              ∧ Declarable setting before
              ∧ (compile setting entry.2).Stops fault)
          ∨ Declarable setting (definitionsIn members .properties)
            ∧ Given members .required IsRequirement
            ∧ (Given members .patternProperties fun value => isObject value)
            ∧ ((∃ before entry after,
                  definitionsIn members .patternProperties = before ++ entry :: after
                  ∧ Matchable setting before
                  ∧ ((compile setting entry.2).Stops fault
                    ∨ WellFormed setting entry.2
                      ∧ Pattern.compile entry.1 = .error (.fault fault)))
              ∨ Matchable setting (definitionsIn members .patternProperties)
                ∧ ∃ inner,
                    value? members .additionalProperties = some inner
                    ∧ (compile setting inner).Stops fault)) := by
  simp only [objectOf, entriesAt_eq]
  refine expectObject_neverStops.bind_stops_iff expectObject_succeeds_iff fun _ => ?_
  have properties := @addProperties_stops_iff setting fault (definitionsIn members .properties) {}
  simp only [declared_iff] at properties
  refine bind_stops_iff_of_kept
    (fun _ => ∀ entry ∈ definitionsIn members .properties, entry.1 ≠ "")
    (fun node built => (declared_iff.mp ⟨node, built⟩).named) properties declared_iff
    fun node named => ?_
  refine required_then_stops_iff (flagged_isName named) fun node => ?_
  refine expectObject_neverStops.bind_stops_iff expectObject_succeeds_iff fun _ => ?_
  have patterns :=
    @addPatterns_stops_iff setting fault (definitionsIn members .patternProperties) node
  simp only [matched_iff, succeeds_iff_wellFormed] at patterns
  exact bind_stops_iff_of_kept (fun _ => True) (fun _ _ => trivial) patterns matched_iff
    fun node _ => assignAdditional_stops_iff

-----------------------------------------------------------------------------------------
-- Definitions
-----------------------------------------------------------------------------------------

theorem rejectKeywords_neverStops {typeName : String} {keywords : List Keyword}
    : (rejectKeywords members typeName keywords).NeverStops := by
  intro fault stops
  unfold rejectKeywords at stops
  split at stops
  · exact not_refuse_stops stops
  · exact not_result_stops stops

theorem rejectRequiredList_neverStops {typeName : String}
    : (rejectRequiredList members typeName).NeverStops := by
  intro fault stops
  unfold rejectRequiredList at stops
  split at stops
  · exact not_refuse_stops stops
  · exact not_result_stops stops

theorem typeOf_neverStops
    : (typeOf members).NeverStops := by
  refine withKeyword_neverStops fun value => ?_
  split
  · exact fun fault => not_result_stops
  · exact fun fault => not_refuse_stops

theorem bind_complete_stops_iff {assembly : Assembly α} {schema : α → Schema}
    : (assembly >>= fun value => complete (schema value)).Stops fault ↔ assembly.Stops fault := by
  simp [bind_stops_iff]

/-- A definition is only stopped once it has a type that can be read. -/
theorem typed_of_stops (stops : (compile setting (.object members)).Stops fault)
    : ∃ stated, (typeOf members).Builds stated := by
  rw [compile] at stops
  split at stops
  · rcases bind_stops_iff.mp stops with refused | ⟨value, refused, -⟩
    · exact absurd refused not_refuse_stops
    · exact absurd refused not_refuse_builds
  · rcases bind_stops_iff.mp stops with typing | ⟨stated, typed, -⟩
    · exact absurd typing (typeOf_neverStops fault)
    · exact ⟨stated, typed⟩

/-- What stops the compiling of a definition, by what its type displays as. -/
theorem compile_stops_iff_of_typed {stated : Value} (typed : (typeOf members).Builds stated)
    : (compile setting (.object members)).Stops fault
      ↔ value? members .reference = none
        ∧ if stated.display = SchemaKind.array.word then
            Lacks members (Keyword.ofLeaves ++ Keyword.ofObjects)
            ∧ (arrayOf members (childAt setting .items members)).Stops fault
          else if stated.display = SchemaKind.object.word then
            Lacks members (Keyword.ofLeaves ++ Keyword.ofArrays)
            ∧ (objectOf members (entriesAt setting .properties members)
                (entriesAt setting .patternProperties members)
                (childAt setting .additionalProperties members)).Stops fault
          else
            Lacks members (Keyword.ofArrays ++ Keyword.ofObjects)
            ∧ (Given members .required fun value => isList value = false)
            ∧ (leafOf setting members stated).Stops fault := by
  rw [compile]
  cases reference : value? members .reference with
  | some value => simp [bind_stops_iff]
  | none =>
      have typing {next : Value → Assembly Schema}
          : (typeOf members >>= next).Stops fault ↔ (next stated).Stops fault := by
        rw [bind_stops_iff, or_iff_right (typeOf_neverStops fault)]
        constructor
        · rintro ⟨other, built, stops⟩
          obtain rfl := Except.ok.inj (typed.symm.trans built)
          exact stops
        · exact fun stops => ⟨stated, typed, stops⟩
      simp only [Option.isSome_none, Bool.false_eq_true, if_false, true_and]
      rw [typing, caught_stops_iff]
      have placed {next : Unit → Assembly Schema} {rest : Prop} (keywords : List Keyword)
          (later : (next ()).Stops fault ↔ rest)
          : (rejectKeywords members stated.display keywords >>= next).Stops fault
            ↔ Lacks members keywords ∧ rest :=
        rejectKeywords_neverStops.bind_stops_iff rejectKeywords_succeeds_iff fun _ => later
      split
      · exact placed _ bind_complete_stops_iff
      · split
        · exact placed _ bind_complete_stops_iff
        · refine placed _ ?_
          exact rejectRequiredList_neverStops.bind_stops_iff rejectRequiredList_succeeds_iff
            fun _ => bind_complete_stops_iff

/-- The word for a simple type displays as no kind of containers. -/
theorem display_ne_container {stated : Value} {type : SimpleType}
    (reads : stated.text? = some type.word) {kind : SchemaKind} (container : kind ≠ .simple)
    : stated.display ≠ kind.word := by
  intro displayed
  have text : isText stated := Option.isSome_iff_exists.mpr ⟨_, reads⟩
  have same := reads.symm.trans (text_of_display text displayed)
  exact word_ne_container _ container (Option.some.inj same)

/-- A definition that stops has been compiled up to there, wherever what stands inside it has. -/
theorem stops_of_compile
    (inside
      : ∀ inner, Inside inner (.object members) → (compile setting inner).Stops fault
          → Stops setting inner fault)
    (stops : (compile setting (.object members)).Stops fault)
    : Stops setting (.object members) fault := by
  obtain ⟨stated, typed⟩ := typed_of_stops stops
  obtain ⟨text, word⟩ := typeOf_builds typed
  obtain ⟨unreferenced, rest⟩ := (compile_stops_iff_of_typed typed).mp stops
  split at rest
  · rename_i displayed
    obtain ⟨placed, array⟩ := rest
    obtain ⟨inner, present, stops⟩ := arrayOf_stops_iff.mp array
    exact .items ⟨unreferenced, word.trans (text_of_display text displayed), placed⟩ present
      (inside inner (.child present) stops)
  · split at rest
    · rename_i displayed
      obtain ⟨placed, object⟩ := rest
      have headed : Headed members SchemaKind.object.word (Keyword.ofLeaves ++ Keyword.ofArrays) :=
        ⟨unreferenced, word.trans (text_of_display text displayed), placed⟩
      have entry {keyword : Keyword} {before after : Members} {inner : String × Value}
          (listed : definitionsIn members keyword = before ++ inner :: after)
          (stops : (compile setting inner.2).Stops fault) : Stops setting inner.2 fault :=
        inside inner.2 (.entry (listed ▸ List.mem_append_right before List.mem_cons_self)) stops
      obtain ⟨properties, ⟨before, inner, after, listed, earlier, stops⟩
        | ⟨declared, required, patternProperties, later⟩⟩ := objectOf_stops_iff.mp object
      · exact .property headed listed earlier (entry listed stops)
      · have reached : GetsToPatterns setting members :=
          ⟨properties, declared, required, patternProperties⟩
        rcases later with ⟨before, inner, after, listed, earlier, stops | ⟨wellFormed, unread⟩⟩
          | ⟨matched, inner, present, stops⟩
        · exact .pattern headed reached listed earlier (entry listed stops)
        · exact .name headed reached listed earlier wellFormed unread
        · exact .additional headed reached matched present (inside inner (.child present) stops)
    · obtain ⟨placed, unlisted, leaf⟩ := rest
      obtain ⟨reads, unread⟩ := leafOf_stops_iff.mp leaf
      exact .leaf ⟨unreferenced, word.trans reads, placed⟩ unlisted unread

/-- Definitions with names only stand in an object. -/
theorem isObject_of_definitionsIn {keyword : Keyword} {entry : String × Value}
    (listed : entry ∈ definitionsIn members keyword)
    : Given members keyword fun value => isObject value := by
  intro value present
  rw [definitionsIn, present] at listed
  split at listed
  · rename_i same
    obtain rfl := Option.some.inj same
    rfl
  · nomatch listed

/-- With the head of an object, a definition stops where its object does. -/
theorem compile_stops_of_object
    (headed : Headed members SchemaKind.object.word (Keyword.ofLeaves ++ Keyword.ofArrays))
    (stops
      : (objectOf members (entriesAt setting .properties members)
          (entriesAt setting .patternProperties members)
          (childAt setting .additionalProperties members)).Stops fault)
    : (compile setting (.object members)).Stops fault := by
  obtain ⟨stated, built, reads⟩ := typeOf_builds_of_typeWord headed.typed
  have displayed : stated.display = SchemaKind.object.word := display_of_text reads
  have other : stated.display ≠ SchemaKind.array.word := by
    rw [displayed]
    decide
  rw [compile_stops_iff_of_typed built, if_neg other, if_pos displayed]
  exact ⟨headed.unreferenced, headed.placed, stops⟩

/-- Compiling a definition stops exactly where the definition does, by induction on the definitions
inside it. -/
theorem compile_stops_iff {definition : Value}
    : (compile setting definition).Stops fault ↔ Stops setting definition fault := by
  induction definition using insideInduction with
  | step definition ih =>
      constructor
      · intro stops
        cases definition with
        | object members => exact stops_of_compile (fun inner inside => (ih inner inside).mp) stops
        | _ => exact absurd stops not_refuse_stops
      · intro stops
        have entry {members before after : Members} {keyword : Keyword} {inner : String × Value}
            (listed : definitionsIn members keyword = before ++ inner :: after)
            : Inside inner.2 (.object members) :=
          .entry (listed ▸ List.mem_append_right before List.mem_cons_self)
        cases stops with
        | leaf headed unlisted unread =>
            obtain ⟨stated, built, reads⟩ := typeOf_builds_of_typeWord headed.typed
            rw [compile_stops_iff_of_typed built,
              if_neg (display_ne_container reads (by decide)),
              if_neg (display_ne_container reads (by decide))]
            exact ⟨headed.unreferenced, headed.placed, unlisted,
              leafOf_stops_iff.mpr ⟨reads, unread⟩⟩
        | items headed present stops =>
            obtain ⟨stated, built, reads⟩ := typeOf_builds_of_typeWord headed.typed
            rw [compile_stops_iff_of_typed built, if_pos (display_of_text reads)]
            exact ⟨headed.unreferenced, headed.placed,
              arrayOf_stops_iff.mpr ⟨_, present, (ih _ (.child present)).mpr stops⟩⟩
        | property headed listed earlier stops =>
            have properties := isObject_of_definitionsIn
              (listed ▸ List.mem_append_right _ List.mem_cons_self)
            refine compile_stops_of_object headed (objectOf_stops_iff.mpr ⟨properties, Or.inl ?_⟩)
            exact ⟨_, _, _, listed, earlier, (ih _ (entry listed)).mpr stops⟩
        | pattern headed reached listed earlier stops =>
            refine compile_stops_of_object headed (objectOf_stops_iff.mpr ⟨reached.properties,
              Or.inr ⟨reached.declared, reached.required, reached.patternProperties, Or.inl ?_⟩⟩)
            exact ⟨_, _, _, listed, earlier, Or.inl ((ih _ (entry listed)).mpr stops)⟩
        | name headed reached listed earlier wellFormed unread =>
            refine compile_stops_of_object headed (objectOf_stops_iff.mpr ⟨reached.properties,
              Or.inr ⟨reached.declared, reached.required, reached.patternProperties, Or.inl ?_⟩⟩)
            exact ⟨_, _, _, listed, earlier, Or.inr ⟨wellFormed, unread⟩⟩
        | additional headed reached matched present stops =>
            refine compile_stops_of_object headed (objectOf_stops_iff.mpr ⟨reached.properties,
              Or.inr ⟨reached.declared, reached.required, reached.patternProperties, Or.inr ?_⟩⟩)
            exact ⟨matched, _, present, (ih _ (.child present)).mpr stops⟩

/-- A definition that is not compiled is refused, at itself or at a definition inside it, exactly if
it does not stop. -/
theorem refused_iff_not_stops {definition : Value}
    (unaccepted : ∀ schema, (compile setting definition).outcome ≠ .ok schema)
    : (∃ path error, (compile setting definition).outcome = .error (.refused path error))
      ↔ ∀ fault, ¬Stops setting definition fault := by
  simp only [← compile_stops_iff, Assembly.Stops]
  generalize (compile setting definition).outcome = outcome at unaccepted
  cases outcome with
  | ok schema => exact absurd rfl (unaccepted schema)
  | error obstruction => cases obstruction <;> simp

/-- The definition of a text that is to repeat something more often than patterns can count is
neither compiled nor refused. -/
theorem not_refused_of_repetition_too_large
    : ¬∃ path error,
        (compile ⟨true, defaultRegistry, .builtIn⟩ (.object
          [("type", .string "string"),
            ("pattern", .string "a\x7b99999999999999999999\x7d")])).outcome
        = .error (.refused path error) := by
  have unread : Pattern.compile "a\x7b99999999999999999999\x7d"
      = .error (.fault .repetitionTooLarge) :=
    Format.isPattern_eq_error_iff.mp (by decide +kernel)
  intro refused
  have unaccepted
      : ∀ schema,
          (compile ⟨true, defaultRegistry, .builtIn⟩ (.object
            [("type", .string "string"),
              ("pattern", .string "a\x7b99999999999999999999\x7d")])).outcome
          ≠ .ok schema := by
    intro schema compiled
    obtain ⟨path, error, refused⟩ := refused
    nomatch refused.symm.trans compiled
  refine (refused_iff_not_stops unaccepted).mp refused .repetitionTooLarge ?_
  refine .leaf ⟨rfl, rfl, ?_⟩ nofun ⟨_, _, rfl, rfl, unread⟩
  unfold Lacks
  decide

end Assay.Definition
