import Assay.Proofs.Definition.Completion
import Assay.Proofs.Definition.Strictness
import Assay.Proofs.Schema.Distinct
import Assay.Proofs.Validator.Growth

/-! What a compilation tells the log and the metrics. There is one record for every definition that
has been completed, in their order, and behind all of them one for the whole, which is then counted.
-/

namespace Assay

namespace Definition

variable {setting : Setting} {members : Members}

-----------------------------------------------------------------------------------------
-- Paths in order
-----------------------------------------------------------------------------------------

theorem distinct_of_value? {keyword : Keyword} {value : Value}
    (distinct : (Value.object members).Distinct)
    (present : value? members keyword = some value)
    : value.Distinct := by
  cases distinct with
  | object _ each => exact each _ (Value.mem_of_member? present)

theorem names_nodup_of_definitionsIn {keyword : Keyword}
    (distinct : (Value.object members).Distinct)
    : ((definitionsIn members keyword).map Prod.fst).Nodup := by
  unfold definitionsIn
  split
  · rename_i present
    cases distinct_of_value? distinct present with
    | object names => exact names
  · exact List.nodup_nil

/-- A definition inside one with distinct names has distinct names. -/
theorem distinct_of_inside {inner definition : Value} (inside : Inside inner definition)
    (distinct : definition.Distinct)
    : inner.Distinct := by
  cases inside with
  | child found => exact distinct_of_value? distinct found
  | entry listed =>
      unfold definitionsIn at listed
      split at listed
      · rename_i present
        cases distinct_of_value? distinct present with
        | object _ each => exact each _ listed
      · nomatch listed

/-- The keyword that a step goes through. -/
def Step.keyword
    : Step → Keyword
  | .items => .items
  | .property _ => .properties
  | .pattern _ => .patternProperties
  | .additional => .additionalProperties

/-- No two definitions directly inside one with distinct names are the same step away: steps with
names differ in these, and all others in their keywords. -/
theorem steps_nodup (distinct : (Value.object members).Distinct)
    : ((directlyInside members).map Prod.fst).Nodup := by
  have single {step : Step} {value : Option Value}
      : ((value.map (step, ·)).toList.map Prod.fst).Nodup := by
    cases value <;> simp
  have named {stepTo : String → Step} (injective : Function.Injective stepTo) {keyword : Keyword}
      : (((definitionsIn members keyword).map fun entry => (stepTo entry.1, entry.2)).map
          Prod.fst).Nodup := by
    have names : ((definitionsIn members keyword).map (stepTo ∘ Prod.fst)).Nodup := by
      rw [← List.map_map]
      exact (names_nodup_of_definitionsIn distinct).map injective
    rwa [List.map_map]
  have items : ∀ entry ∈ itemsInside members, entry.1.keyword = .items := by
    intro entry listed
    obtain ⟨value, -, rfl⟩ := Option.map_eq_some_iff.mp (Option.mem_toList.mp listed)
    rfl
  have properties : ∀ entry ∈ propertiesInside members, entry.1.keyword = .properties := by
    intro entry listed
    obtain ⟨member, -, rfl⟩ := List.mem_map.mp listed
    rfl
  have patterns : ∀ entry ∈ patternsInside members, entry.1.keyword = .patternProperties := by
    intro entry listed
    obtain ⟨member, -, rfl⟩ := List.mem_map.mp listed
    rfl
  have additional
      : ∀ entry ∈ additionalInside members, entry.1.keyword = .additionalProperties := by
    intro entry listed
    obtain ⟨value, -, rfl⟩ := Option.map_eq_some_iff.mp (Option.mem_toList.mp listed)
    rfl
  simp only [directlyInside, List.map_append, List.nodup_append, List.mem_append]
  refine ⟨⟨⟨single, named fun _ _ => Step.property.inj, ?_⟩,
    named fun _ _ => Step.pattern.inj, ?_⟩, single, ?_⟩
  · grind
  · grind
  · grind

/-- No two definitions in order stand at the same path, by induction on the definitions inside. -/
theorem paths_nodup {definition : Value} (distinct : definition.Distinct)
    : ((inOrder definition).map Prod.fst).Nodup := by
  induction definition using insideInduction with
  | step definition ih =>
      cases definition with
      | object members =>
          rw [inOrder_object, List.map_append, List.nodup_append]
          refine ⟨?_, List.nodup_singleton _, ?_⟩
          · rw [orderOf, List.map_flatMap, List.nodup_flatMap]
            refine ⟨fun entry listed => ?_, ?_⟩
            · have inside := inside_of_directlyInside listed
              have below := ih entry.2 inside (distinct_of_inside inside distinct)
              have injective : Function.Injective (entry.1 :: · : Path → Path) :=
                fun _ _ same => (List.cons.inj same).2
              simpa [entryUnder, Function.comp_def] using below.map injective
            · refine (List.pairwise_map.mp (steps_nodup distinct)).imp fun other => ?_
              intro path first second
              simp only [List.map_map, List.mem_map, Function.comp_apply] at first second
              obtain ⟨one, -, rfl⟩ := first
              obtain ⟨two, -, same⟩ := second
              exact other (List.cons.inj same).1.symm
          · intro path listed root here
            obtain ⟨entry, below, rfl⟩ := List.mem_map.mp listed
            obtain ⟨step, rest, same⟩ := ne_nil_of_mem_orderOf below
            rw [List.mem_singleton.mp here, same]
            exact List.cons_ne_nil step rest
      | _ => simp [inOrder]

-----------------------------------------------------------------------------------------
-- Records
-----------------------------------------------------------------------------------------

/-- A record tells of a definition: of the kind of what it compiles to, and of where it stands. -/
def TellsOf (setting : Setting) (entry : Path × Value) (record : LogRecord)
    : Prop :=
  ∃ node,
    (compile setting entry.2).outcome = .ok node
    ∧ record = Completed.record ⟨node.kind, entry.1⟩

theorem wellFormed_of_completes {definition inner : Value} {path : Path}
    (completes : Completes setting definition path inner)
    : WellFormed setting inner := by
  induction completes with
  | here wellFormed => exact wellFormed
  | further _ _ ih => exact ih

/-- The parts that have been completed tell of their definitions. -/
theorem records_tell {definition : Value} {done : List (Path × Value)}
    (completed : ∀ entry ∈ done, Completes setting definition entry.1 entry.2)
    : List.Forall₂ (TellsOf setting) done ((done.map partOf).map (·.record)) := by
  rw [List.map_map, List.forall₂_map_right_iff, List.forall₂_same]
  intro entry listed
  have formed := wellFormed_of_completes (completed entry listed)
  obtain ⟨node, built⟩ := succeeds_iff_wellFormed.mpr formed
  refine ⟨node, built, ?_⟩
  rw [kind_of_builds built]
  rfl

end Definition

/-- A logger of the lowest level keeps everything. -/
theorem Logger.keep_of_debug (records : List LogRecord)
    : ({ level := Severity.debug.level } : Logger).keep records = records := by
  refine List.filter_eq_self.mpr fun record _ => ?_
  cases record.severity <;> decide

/-- A schema that has been compiled is counted for its kind where metrics are kept. -/
theorem Metrics.compiledOf_counted {enabled : Bool} (metrics : Metrics) (schema : Schema)
    (kind : SchemaKind)
    : (if enabled then metrics.recordCompiled schema.kind.word else metrics).compiledOf kind
      = metrics.compiledOf kind
        + if enabled ∧ metrics.available ∧ schema.kind = kind then 1 else 0 := by
  have grown : metrics.Grown enabled [] [schema] _ := .ofCompilation metrics schema
  by_cases kept : enabled ∧ metrics.available
  · rw [grown.compiled kept.1 kept.2, List.countP_singleton]
    simp [kept]
  · rw [grown.unkept kept, if_neg fun counts => kept ⟨counts.1, counts.2.1⟩, Nat.add_zero]

namespace Configuration
open Definition

/-- A compilation tells of definitions in the order in which they are completed: one behind all
those inside it, no two of them at the same path. If it succeeds it tells of every definition there
is, then of the whole, and counts a schema of the root's kind where metrics are kept. If it fails it
tells of those that it has completed until then, which are exactly the well-formed ones that it has
got to, and counts nothing. -/
theorem compile_tells_of_definitions (configuration : Configuration) (formats : FormatRegistry)
    (metrics : Metrics) {definition : Value} (names : definition.Distinct)
    : let setting := configuration.setting formats
      let (assembly, counted) := configuration.compile formats metrics definition
      let kept := ({ level := Severity.debug.level } : Logger).keep assembly.records
      (∀ path inner, (path, inner) ∈ inOrder definition ↔ StandsAt definition path inner)
      ∧ ((inOrder definition).map Prod.fst).Nodup
      ∧ (∀ schema, assembly.outcome = .ok schema →
          (∃ records,
            kept = records ++ [compiledRecord schema]
            ∧ List.Forall₂ (TellsOf setting) (inOrder definition) records)
          ∧ counted = { metrics with compiled := counted.compiled }
          ∧ ∀ kind,
              counted.compiledOf kind
              = metrics.compiledOf kind
                + if configuration.enableMetrics.isTruthy ∧ metrics.available ∧ schema.kind = kind
                  then 1 else 0)
      ∧ ∀ obstruction, assembly.outcome = .error obstruction →
          ∃ done rest,
            inOrder definition = done ++ rest
            ∧ (∀ path inner, (path, inner) ∈ done ↔ Completes setting definition path inner)
            ∧ List.Forall₂ (TellsOf setting) done kept
            ∧ counted = metrics := by
  obtain ⟨done, rest, order, completed, mem, all⟩ :=
    compile_completesInOrder (configuration.setting formats) definition
  have told := records_tell fun entry listed => (mem entry).mp listed
  simp only [Logger.keep_of_debug, compile]
  refine ⟨fun path inner => ⟨standsAt_of_mem_inOrder, mem_inOrder_of_standsAt⟩, paths_nodup names,
    ?_, ?_⟩
  · intro schema succeeds
    obtain rfl : rest = [] := all ⟨schema, succeeds⟩
    rw [List.append_nil] at order
    refine ⟨⟨_, ?_, order ▸ told⟩, ?_, ?_⟩
    · rw [Assembly.records, completed, succeeds, order]
    · rw [succeeds]
      simp only [Metrics.recordCompiled]
      split_ifs <;> rfl
    · intro kind
      rw [succeeds]
      exact Metrics.compiledOf_counted metrics schema kind
  · intro obstruction fails
    refine ⟨done, rest, order, fun path inner => mem (path, inner), ?_, ?_⟩
    · rw [Assembly.records, completed, fails, List.append_nil]
      exact told
    · rw [fails]

/-- An object with an array of anything before one that has a least size, and with what stands for
all other members. -/
def sizedLists (least : Int)
    : Value :=
  .object
    [("type", .string "object"),
      ("additionalProperties", .object [("type", .string "integer")]),
      ("properties",
        .object
          [("any", .object [("type", .string "array")]),
            ("sized",
              .object
                [("type", .string "array"), ("minItems", .int least), ("items", .object [])])])]

theorem distinct_sizedLists (least : Int)
    : (sizedLists least).Distinct := by
  simp [sizedLists, Value.int, Value.distinct_object_iff, Value.Distinct.string,
    Value.Distinct.number]

/-- With a least size all definitions are told of, the items before their array. With a negative one
the items are the last that is told of, and the array is not. -/
theorem sizedLists_told
    : (sizedLists 2).Distinct
      ∧ (sizedLists (-2)).Distinct
      ∧ List.Forall₂ (TellsOf (initial.setting .builtIn)) (inOrder (sizedLists 2))
          [⟨.compiler, .debug, "Compiled array node at #/properties/any"⟩,
            ⟨.compiler, .debug, "Compiled simple node at #/properties/sized/items"⟩,
            ⟨.compiler, .debug, "Compiled array node at #/properties/sized"⟩,
            ⟨.compiler, .debug, "Compiled simple node at #/additionalProperties"⟩,
            ⟨.compiler, .debug, "Compiled object node at #"⟩]
      ∧ (initial.compile .builtIn {} (sizedLists 2)).2.compiledOf .object = 1
      ∧ ∃ done rest,
          inOrder (sizedLists (-2)) = done ++ rest
          ∧ List.Forall₂ (TellsOf (initial.setting .builtIn)) done
              [⟨.compiler, .debug, "Compiled array node at #/properties/any"⟩,
                ⟨.compiler, .debug, "Compiled simple node at #/properties/sized/items"⟩] := by
  obtain ⟨-, -, succeeded, -⟩ :=
    compile_tells_of_definitions initial .builtIn {} (distinct_sizedLists 2)
  obtain ⟨-, -, -, failed⟩ :=
    compile_tells_of_definitions initial .builtIn {} (distinct_sizedLists (-2))
  obtain ⟨⟨records, kept, told⟩, -, counted⟩ := succeeded _ rfl
  obtain ⟨done, rest, order, -, begun, -⟩ := failed _ rfl
  have listed := List.append_cancel_right (kept.symm.trans (rfl : _ = [_, _, _, _, _] ++ [_]))
  exact ⟨distinct_sizedLists 2, distinct_sizedLists (-2), listed ▸ told, counted .object, done,
    rest, order, begun⟩

end Configuration

end Assay
