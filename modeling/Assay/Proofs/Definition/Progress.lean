import Assay.Proofs.Definition.Order
import Assay.Proofs.Definition.WellFormed

/-! How far a compilation has come when it ends. What has been completed are the first definitions
in order; a compilation that is refused has completed everything up to the definition that it is
refused for, apart from what stands inside that definition.
-/

namespace Assay.Definition
open Assembly

variable {α β : Type} {setting : Setting} {members : Members} {keyword : Keyword}

-----------------------------------------------------------------------------------------
-- Progress through definitions in order
-----------------------------------------------------------------------------------------

/-- Parts have been completed for definitions: each of these compiles by itself, and its part stands
where it does and is of the kind of its schema. -/
def Finished (setting : Setting) (completed : List Completed) (definitions : List (Path × Value))
    : Prop :=
  List.Forall₂
    (fun part entry =>
      part.path = entry.1
      ∧ ∃ schema, (compile setting entry.2).Builds schema ∧ part.kind = schema.kind)
    completed definitions

/-- Definitions in order have been gone through up to the one at a path, which by itself is refused
in the same way. All before it have been completed, but for those inside it. -/
structure Halted (setting : Setting) (order : List (Path × Value)) (completed : List Completed)
    (path : Path) (error : Rejection) (inner : Value) : Prop where
  alone : (compile setting inner).outcome = .error (.refused [] error)
  progress
    : ∃ done own later,
        order = done ++ own ++ (path, inner) :: later
        ∧ Finished setting completed done
        ∧ ∀ entry ∈ own, ∃ step rest, entry.1 = path ++ step :: rest

/-- An assembly goes through definitions in order: where it returns, it has completed all of them;
where it is refused, either itself or one of the definitions, it has completed all before. -/
structure Follows (setting : Setting) (order : List (Path × Value)) (assembly : Assembly α)
    : Prop where
  returned : ∀ value, assembly.Builds value → Finished setting assembly.completed order
  refused
    : ∀ error, assembly.outcome = .error (.refused [] error) →
        ∃ done rest, order = done ++ rest ∧ Finished setting assembly.completed done
  passed
    : ∀ step path error, assembly.outcome = .error (.refused (step :: path) error) →
        ∃ inner, Halted setting order assembly.completed (step :: path) error inner

/-- An assembly completes nothing, and what is refused in it is refused for itself. -/
structure Bare (assembly : Assembly α) : Prop where
  completed : assembly.completed = []
  path
    : ∀ path error, assembly.outcome = .error (.refused path error) → path = []

namespace Finished

theorem nil
    : Finished setting [] [] :=
  List.Forall₂.nil

theorem append {first second : List Completed} {early late : List (Path × Value)}
    (before : Finished setting first early) (behind : Finished setting second late)
    : Finished setting (first ++ second) (early ++ late) :=
  List.rel_append before behind

/-- What has been completed has been so wherever it is seen from. -/
theorem under {completed : List Completed} {definitions : List (Path × Value)} (step : Step)
    (finished : Finished setting completed definitions)
    : Finished setting (completed.map fun part => { part with path := step :: part.path })
        (definitions.map (entryUnder step)) := by
  unfold Finished
  rw [List.forall₂_map_left_iff, List.forall₂_map_right_iff]
  refine List.Forall₂.imp (fun part entry => ?_) finished
  intro finished
  obtain ⟨place, built⟩ := finished
  exact ⟨congrArg (step :: ·) place, built⟩

end Finished

namespace Bare

theorem result (value : α)
    : Bare (Assembly.result value) :=
  ⟨rfl, nofun⟩

theorem refuse (refusal : Refusal)
    : Bare (Assembly.refuse refusal : Assembly α) := by
  refine ⟨rfl, ?_⟩
  intro path other same
  obtain ⟨rfl, -⟩ := Obstruction.refused.inj (Except.error.inj same)
  rfl

/-- An assignment completes nothing, and its refusal is one of the definition itself. -/
theorem assigned (step : Except Failure α)
    : Bare (Assembly.assigned step) := by
  cases step with
  | ok value => exact .result value
  | error failure =>
      cases failure with
      | refused refusal =>
          refine ⟨rfl, ?_⟩
          intro path other same
          obtain ⟨rfl, -⟩ := Obstruction.refused.inj (Except.error.inj same)
          rfl
      | stopped fault => exact ⟨rfl, nofun⟩

theorem bind {assembly : Assembly α} {next : α → Assembly β} (first : Bare assembly)
    (second : ∀ value, Bare (next value))
    : Bare (assembly >>= next) := by
  obtain ⟨completed, outcome⟩ := assembly
  obtain ⟨nothing, here⟩ := first
  obtain rfl : completed = [] := nothing
  cases outcome with
  | error obstruction =>
      refine ⟨rfl, ?_⟩
      intro path error same
      exact here path error (congrArg Except.error (Except.error.inj same))
  | ok value => exact ⟨(second value).completed, (second value).path⟩

theorem withKeyword {unchanged : α} {use : Value → Assembly α} (each : ∀ value, Bare (use value))
    : Bare (withKeyword members keyword unchanged use) := by
  unfold Definition.withKeyword
  split
  · exact each _
  · exact .result unchanged

end Bare

namespace Halted

variable {order : List (Path × Value)} {completed : List Completed} {path : Path}
  {error : Rejection} {inner : Value}

/-- What comes behind the definition that is refused does not matter. -/
theorem append (halted : Halted setting order completed path error inner)
    (late : List (Path × Value))
    : Halted setting (order ++ late) completed path error inner := by
  obtain ⟨done, own, later, rfl, finished, below⟩ := halted.progress
  exact ⟨halted.alone, done, own, later ++ late, by simp, finished, below⟩

/-- What has been completed before counts as progress. -/
theorem behind {early : List (Path × Value)} {first : List Completed}
    (finished : Finished setting first early)
    (halted : Halted setting order completed path error inner)
    : Halted setting (early ++ order) (first ++ completed) path error inner := by
  obtain ⟨done, own, later, rfl, between, below⟩ := halted.progress
  exact ⟨halted.alone, early ++ done, own, later, by simp, finished.append between, below⟩

/-- Progress is the same wherever it is seen from. -/
theorem under (step : Step) (halted : Halted setting order completed path error inner)
    : Halted setting (order.map (entryUnder step))
        (completed.map fun part => { part with path := step :: part.path }) (step :: path) error
        inner := by
  obtain ⟨done, own, later, rfl, finished, below⟩ := halted.progress
  refine ⟨halted.alone, done.map (entryUnder step), own.map (entryUnder step),
    later.map (entryUnder step), by simp [entryUnder], finished.under step, ?_⟩
  intro _ member
  obtain ⟨entry, listed, rfl⟩ := List.mem_map.mp member
  obtain ⟨next, rest, place⟩ := below entry listed
  exact ⟨next, rest, congrArg (step :: ·) place⟩

end Halted

namespace Follows

variable {order early late : List (Path × Value)}

/-- An assembly that completes nothing goes through no definitions. -/
theorem ofBare {assembly : Assembly α} (bare : Bare assembly)
    : Follows setting [] assembly := by
  constructor
  · intro _ _
    exact bare.completed ▸ .nil
  · intro _ _
    exact ⟨[], [], rfl, bare.completed ▸ .nil⟩
  · intro _ _ _ same
    nomatch bare.path _ _ same

/-- A refusal may come before any definitions. -/
theorem ofRefuse (order : List (Path × Value)) (refusal : Refusal)
    : Follows setting order (refuse refusal : Assembly α) := by
  constructor
  · intro _ built
    exact absurd built not_refuse_builds
  · intro _ _
    exact ⟨[], order, rfl, .nil⟩
  · intro _ _ _ same
    nomatch (Bare.refuse refusal).path _ _ same

/-- Assemblies in a row go through their definitions one after the other. -/
theorem bind {assembly : Assembly α} {next : α → Assembly β}
    (first : Follows setting early assembly)
    (second : ∀ value, assembly.Builds value → Follows setting late (next value))
    : Follows setting (early ++ late) (assembly >>= next) := by
  obtain ⟨completed, outcome⟩ := assembly
  cases outcome with
  | error obstruction =>
      have still {path : Path} {error : Rejection}
          (same : ((⟨completed, .error obstruction⟩ : Assembly α) >>= next).outcome
            = .error (.refused path error))
          : (.error obstruction : Except Obstruction α) = .error (.refused path error) :=
        congrArg Except.error (Except.error.inj same)
      constructor
      · intro value built
        nomatch built
      · intro error same
        obtain ⟨done, rest, rfl, finished⟩ := first.refused error (still same)
        exact ⟨done, rest ++ late, by simp, finished⟩
      · intro step path error same
        obtain ⟨inner, halted⟩ := first.passed step path error (still same)
        exact ⟨inner, halted.append late⟩
  | ok value =>
      have finished := first.returned value rfl
      have behind := second value rfl
      constructor
      · intro result built
        exact finished.append (behind.returned result built)
      · intro error same
        obtain ⟨done, rest, rfl, between⟩ := behind.refused error same
        exact ⟨early ++ done, rest, by simp, finished.append between⟩
      · intro step path error same
        obtain ⟨inner, halted⟩ := behind.passed step path error same
        exact ⟨inner, halted.behind finished⟩

/-- What completes nothing may come before everything else. -/
theorem bindBare {assembly : Assembly α} {next : α → Assembly β} (bare : Bare assembly)
    (second : ∀ value, assembly.Builds value → Follows setting order (next value))
    : Follows setting order (assembly >>= next) :=
  (Follows.ofBare bare).bind second

/-- What completes nothing may come behind everything else. -/
theorem thenBare {assembly : Assembly α} {next : α → Assembly β}
    (first : Follows setting order assembly) (bare : ∀ value, Bare (next value))
    : Follows setting order (assembly >>= next) := by
  have behind := first.bind fun value _ => Follows.ofBare (bare value)
  rwa [List.append_nil] at behind

/-- What is caught goes through the same definitions: the errors of those inside pass. -/
theorem caught {assembly : Assembly α} (follows : Follows setting order assembly)
    : Follows setting order assembly.caught := by
  obtain ⟨completed, outcome⟩ := assembly
  cases outcome with
  | ok value => exact ⟨fun _ _ => follows.returned value rfl, nofun, nofun⟩
  | error obstruction =>
      cases obstruction with
      | stopped fault => exact ⟨nofun, nofun, nofun⟩
      | refused path error =>
          cases path with
          | nil =>
              have here := follows.refused error rfl
              refine ⟨nofun, fun _ _ => here, fun step path other same => ?_⟩
              cases error <;> cases same
          | cons step path =>
              obtain ⟨inner, halted⟩ := follows.passed step path error rfl
              have passes
                  : Obstruction.caught (.refused (step :: path) error)
                    = .refused (step :: path) error := by
                rw [Obstruction.caught, compile_rank halted.alone]
                rfl
              constructor
              · intro _ built
                cases built
              · intro other same
                have here := Except.error.inj same
                rw [passes] at here
                cases here
              · intro other rest error' same
                have here := Except.error.inj same
                rw [passes] at here
                cases here
                exact ⟨inner, halted⟩

end Follows

-----------------------------------------------------------------------------------------
-- Progress through one definition
-----------------------------------------------------------------------------------------

/-- The compilation of a definition goes through it and all definitions inside it. -/
structure Traced (setting : Setting) (definition : Value) : Prop where
  returned
    : ∀ schema, (compile setting definition).Builds schema →
        Finished setting (compile setting definition).completed (inOrder definition)
  halted
    : ∀ path error, (compile setting definition).outcome = .error (.refused path error) →
        ∃ inner,
          Halted setting (inOrder definition) (compile setting definition).completed path error
            inner

/-- A definition inside another one is gone through with the step to it. -/
theorem Traced.follows {inner : Value} (traced : Traced setting inner) (step : Step)
    : Follows setting (orderOf [(step, inner)]) ((compile setting inner).under step) := by
  have order : orderOf [(step, inner)] = (inOrder inner).map (entryUnder step) := by
    simp [orderOf]
  rw [order]
  constructor
  · intro schema built
    exact (traced.returned schema (under_builds_iff.mp built)).under step
  · intro error same
    obtain ⟨rest, none, -⟩ := under_refused_iff.mp same
    cases none
  · intro next path error same
    obtain ⟨rest, place, refused⟩ := under_refused_iff.mp same
    obtain ⟨inner, halted⟩ := traced.halted rest error refused
    exact ⟨inner, place ▸ halted.under step⟩

theorem ne_nil_of_mem_orderOf {definitions : List (Step × Value)} {entry : Path × Value}
    (listed : entry ∈ orderOf definitions)
    : ∃ step rest, entry.1 = step :: rest := by
  obtain ⟨⟨step, inner⟩, -, below⟩ := List.mem_flatMap.mp listed
  obtain ⟨⟨rest, _⟩, -, rfl⟩ := List.mem_map.mp below
  exact ⟨step, rest, rfl⟩

end Assay.Definition
