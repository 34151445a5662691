import Assay.Proofs.Definition.ContainerAcceptance
import Assay.Proofs.Definition.Meaning

/-! What a definition is refused for. Where the definition itself is refused and not one inside it,
the keyword that the refusal concerns is one that the definition has, and the error either was
raised for the definition or wraps once what a setter raised.
-/

namespace Assay

-----------------------------------------------------------------------------------------
-- Refusals of setters
-----------------------------------------------------------------------------------------

/-- Whatever a step is refused for, it is a keyword. -/
def Accuses {α : Type} (keyword : Keyword) (step : Except Failure α)
    : Prop :=
  ∀ refusal, step = .error (.refused refusal) → refusal.keyword? = some keyword

namespace Accuses

variable {α β : Type} {keyword : Keyword}

theorem ok (value : α)
    : Accuses keyword (.ok value) := by
  intro refusal same
  nomatch same

theorem stopped (fault : Fault)
    : Accuses keyword (.error (.stopped fault) : Except Failure α) := by
  intro refusal same
  nomatch same

theorem refused {refusal : Refusal} (concerns : refusal.keyword? = some keyword)
    : Accuses keyword (.error (.refused refusal) : Except Failure α) := by
  intro other same
  obtain rfl := Failure.refused.inj (Except.error.inj same)
  exact concerns

theorem bind {first : Except Failure α} {next : α → Except Failure β} (here : Accuses keyword first)
    (later : ∀ value, Accuses keyword (next value))
    : Accuses keyword (first >>= next) := by
  intro refusal same
  rcases bind_eq_error_iff.mp same with first | ⟨value, -, next⟩
  · exact here refusal first
  · exact later value refusal next

end Accuses

/-- The keyword whose value a field holds. -/
def LeafField.keyword
    : LeafField → Keyword
  | .type => .type
  | .pattern => .pattern
  | .format => .format
  | .minLength => .minLength
  | .maxLength => .maxLength
  | .minimum => .minimum
  | .maximum => .maximum
  | .exclusiveMinimum => .exclusiveMinimum
  | .exclusiveMaximum => .exclusiveMaximum
  | .enumeration => .enumeration

namespace Leaf

variable {formats : FormatRegistry} {leaf : Leaf}

end Leaf

namespace ArrayNode

variable {α : Type} {node : ArrayNode α}

end ArrayNode

namespace ObjectNode

variable {α : Type} {node : ObjectNode α}

end ObjectNode

namespace Definition
open Assembly

variable {α β : Type} {setting : Setting} {members : Members} {keyword : Keyword}

-----------------------------------------------------------------------------------------
-- Refusals of a definition itself
-----------------------------------------------------------------------------------------

/-- The keyword that a refusal concerns is one that a definition has, if there is one. -/
def Concerns (members : Members) (refusal : Refusal)
    : Prop :=
  ∀ keyword, refusal.keyword? = some keyword → (value? members keyword).isSome

theorem concerns_of_present {refusal : Refusal} (told : refusal.keyword? = some keyword)
    (present : (value? members keyword).isSome)
    : Concerns members refusal := by
  intro other concerns
  obtain rfl := Option.some.inj (told.symm.trans concerns)
  exact present

/-- An error tells a refusal as it was raised. -/
inductive Rejection.Raised : Rejection → Refusal → Prop
  | bySetter (refusal : Refusal) : Raised (.bySetter refusal) refusal
  | ofDefinition (refusal : Refusal) : Raised (.ofDefinition refusal) refusal

/-- What is raised where an assembly is refused itself concerns the definition; what comes from
further in is an error of a definition already. -/
structure Blames (members : Members) (assembly : Assembly α) : Prop where
  own
    : ∀ error, assembly.outcome = .error (.refused [] error) →
        ∃ refusal, error.Raised refusal ∧ Concerns members refusal
  inner
    : ∀ step path error, assembly.outcome = .error (.refused (step :: path) error) →
        error.rank = .compilation

namespace Blames

theorem result (value : α)
    : Blames members (Assembly.result value) :=
  ⟨nofun, nofun⟩

theorem complete (schema : Schema)
    : Blames members (Assembly.complete schema) :=
  ⟨nofun, nofun⟩

theorem refuse {refusal : Refusal} (concerns : Concerns members refusal)
    : Blames members (Assembly.refuse refusal : Assembly α) := by
  refine ⟨?_, nofun⟩
  intro error same
  cases same
  exact ⟨refusal, .ofDefinition refusal, concerns⟩

theorem assigned {step : Except Failure α} (accuses : Accuses keyword step)
    (present : (value? members keyword).isSome)
    : Blames members (Assembly.assigned step) := by
  cases step with
  | ok value => exact .result value
  | error failure =>
      cases failure with
      | stopped fault => exact ⟨nofun, nofun⟩
      | refused refusal =>
          refine ⟨?_, nofun⟩
          intro error same
          cases same
          exact ⟨refusal, .bySetter refusal, concerns_of_present (accuses refusal rfl) present⟩

/-- What is refused for a definition inside another one is not held against the outer one. -/
theorem under (definition : Value) (step : Step)
    : Blames members ((compile setting definition).under step) := by
  constructor
  · intro error same
    obtain ⟨rest, none, -⟩ := under_refused_iff.mp same
    cases none
  · intro step path error same
    obtain ⟨rest, -, refused⟩ := under_refused_iff.mp same
    exact compile_rank refused

theorem bind {assembly : Assembly α} {next : α → Assembly β} (first : Blames members assembly)
    (second : ∀ value, assembly.Builds value → Blames members (next value))
    : Blames members (assembly >>= next) := by
  obtain ⟨completed, outcome⟩ := assembly
  cases outcome with
  | error obstruction =>
      constructor
      · intro error same
        exact first.own error (congrArg Except.error (Except.error.inj same))
      · intro step path error same
        exact first.inner step path error (congrArg Except.error (Except.error.inj same))
  | ok value => exact ⟨(second value rfl).own, (second value rfl).inner⟩

theorem withKeyword {unchanged : α} {use : Value → Assembly α}
    (blames
      : ∀ value, value? members keyword = some value → Blames members (use value))
    : Blames members (withKeyword members keyword unchanged use) := by
  unfold Definition.withKeyword
  cases present : value? members keyword with
  | none => exact .result unchanged
  | some value => exact blames value present

end Blames

end Definition

end Assay
