import Assay.Proofs.Definition.Meaning
import Assay.Proofs.Schema.Stopping

/-! Where the check of a compiled schema stops without an answer. Every node that a walk meets has
been compiled from a definition itself, so that its patterns have been read.
-/

namespace Assay.Definition
open Assembly

variable {setting : Setting} {formats : Registries}

/-- A schema has been made from a definition, or stands where no definition does. -/
def Made (setting : Setting) (schema : Schema)
    : Prop :=
  schema = .anything ∨ ∃ definition, (compile setting definition).Builds schema

/-- The children of a schema that has been made have been made too. -/
theorem made_of_holds {schema child : Schema} (made : Made setting schema)
    (holds : schema.Holds child)
    : Made setting child := by
  rcases made with rfl | ⟨definition, built⟩
  · nomatch holds
  cases compile_reads built with
  | leaf => nomatch holds
  | array _ reads =>
      cases holds with
      | items =>
          rcases reads.items with ⟨-, anything⟩ | ⟨inside, -, built⟩
          · exact Or.inl anything
          · exact Or.inr ⟨inside, built⟩
  | object _ reads =>
      cases holds with
      | property declared =>
          obtain ⟨inside, -, -, built⟩ := (exists_of_forall₂ reads.properties).2 _ declared
          exact Or.inr ⟨inside.2, built⟩
      | pattern listed =>
          obtain ⟨inside, -, -, built⟩ := (exists_of_forall₂ reads.patterns).2 _ listed
          exact Or.inr ⟨inside.2, built⟩
      | additional given =>
          obtain ⟨inside, -, -, built⟩ := reads.additional.definition_of_schema given
          exact Or.inr ⟨inside, built⟩

/-- Walks from a schema that has been made meet nothing else, by induction on the walk. -/
theorem made_of_walk {schema node : Schema} {document part : Value} {route : List Edge}
    (made : Made setting schema) (walk : schema.Walk document route node part)
    : Made setting node := by
  induction walk with
  | here => exact made
  | step leads _ ih => exact ih (made_of_holds made (Schema.holds_of_leads leads))

/-- A schema that has been made for the registry of the built-in formats is a usual node. -/
theorem plain_of_made {schema : Schema} (known : formats setting.registry = .builtIn)
    (default : setting.registry = defaultRegistry) (made : Made setting schema)
    : schema.Plain formats := by
  rcases made with rfl | ⟨definition, built⟩
  · exact .leaf (default ▸ known) nofun
  cases compile_reads built with
  | leaf reads =>
      refine .leaf known fun stray held => ?_
      obtain ⟨value, -, -, label, pattern, -, -, proper⟩ := exists_of_read reads.pattern held
      nomatch proper
  | array => exact .array
  | object _ reads =>
      refine .object (fun entry listed => ?_) reads.additional.agrees
      obtain ⟨-, -, ⟨pattern, -, proper⟩, -⟩ := (exists_of_forall₂ reads.patterns).2 entry listed
      exact ⟨pattern, proper⟩

/-- The check of a schema that has been compiled with the built-in formats returns its violations
exactly if no walk through the schema and the document ends where the node stops at the part. -/
theorem compiled_check_returns_iff {strict : Bool} {definition document : Value} {schema : Schema}
    (known : formats defaultRegistry = .builtIn)
    (compiled : (compile ⟨strict, defaultRegistry, .builtIn⟩ definition).outcome = .ok schema)
    : (∃ violations, schema.check formats document = .ok violations)
      ↔ ∀ route node part, schema.Walk document route node part → ¬node.Stops part := by
  refine Schema.check_returns_iff fun route node part walk => ?_
  have made : Made ⟨strict, defaultRegistry, .builtIn⟩ schema := Or.inr ⟨definition, compiled⟩
  exact plain_of_made known rfl (made_of_walk made walk)

/-- A list of texts that are to be patterns cannot be checked if one of them counts farther than
patterns can. -/
theorem not_returned_of_repetition_too_large
    : ¬∃ violations,
        (Schema.array
          { items := .leaf 0 { type := .string, format := some (.proper (.text "regex")) } }).check
            (fun _ => .builtIn) (.list [.string "a", .string "a\x7b99999999999999999999\x7d"])
          = .ok violations := by
  intro returned
  have stopped : Format.isPattern "a\x7b99999999999999999999\x7d" = .error .repetitionTooLarge := by
    decide +kernel
  have free := (@compiled_check_returns_iff (fun _ => .builtIn) true
    (.object
      [("type", .string "array"),
        ("items", .object [("type", .string "string"), ("format", .string "regex")])])
    _ _ rfl rfl).mp returned
  refine free [.item 1] _ _ (.step (.item rfl rfl) .here) (.leaf ?_)
  refine .format ?_ rfl rfl rfl (Format.isPattern_eq_error_iff.mp stopped)
  refine (Leaf.conforms_iff ..).mpr ⟨.string rfl, nofun, fun text _ _ => ?_, ?_, nofun⟩
  · refine ⟨fun _ given => ?_, fun _ given => ?_, fun _ given => ?_⟩ <;> nomatch given
  · exact fun number numeric => nomatch numeric

end Assay.Definition
