import Assay.Rank
import Assay.Schema.Tree

/-!
Assemblies: the outcome of building a schema from its definition, together with the parts that
have been completed on the way.
-/

namespace Assay.Definition

/-- A step from a definition to one inside it. -/
inductive Step where
  | items
  | property (name : String)
  | pattern (source : String)
  | additional
deriving DecidableEq, Repr

/-- A step as part of a path. -/
def Step.text
    : Step → String
  | .items => "/items"
  | .property name => "/properties/" ++ name
  | .pattern source => "/patternProperties/" ++ source
  | .additional => "/additionalProperties"

/-- A way from a definition to one inside it. -/
abbrev Path : Type := List Step

/-- The text of a path. -/
def Path.text (path : Path)
    : String :=
  "#" ++ String.join (path.map (·.text))

/-- A schema that has been completed, and where its definition stands. -/
structure Completed where
  kind : SchemaKind
  path : Path
deriving DecidableEq, Repr

/-- An error while a definition is compiled: the refusal of a setter as it was raised, a refusal of
the definition itself, or an error of the definition that wraps one that was caught. -/
inductive Rejection where
  | bySetter (refusal : Refusal)
  | ofDefinition (refusal : Refusal)
  | wrapping (inner : Rejection)

/-- The rank of an error. -/
def Rejection.rank
    : Rejection → Rank
  | .bySetter _ => .configuration
  | .ofDefinition _ | .wrapping _ => .compilation

/-- What an error tells, whether or not it wraps another one. -/
def Rejection.refusal
    : Rejection → Refusal
  | .bySetter refusal | .ofDefinition refusal => refusal
  | .wrapping inner => inner.refusal

/-- Why a definition could not be compiled: an error was raised at the definition at a path, or a
fault stopped the compilation. -/
inductive Obstruction where
  | refused (path : Path) (error : Rejection)
  | stopped (fault : Fault)

/-- What has been completed, in order, and the outcome. -/
structure Assembly (α : Type) where
  completed : List Completed
  outcome : Except Obstruction α

namespace Assembly

variable {α β : Type}

/-- An outcome without anything completed. -/
def result (value : α)
    : Assembly α :=
  ⟨[], .ok value⟩

/-- An assembly continued by another one, unless it has failed. -/
def andThen (assembly : Assembly α) (next : α → Assembly β)
    : Assembly β :=
  match assembly.outcome with
  | .error obstruction => ⟨assembly.completed, .error obstruction⟩
  | .ok value =>
      let rest := next value
      ⟨assembly.completed ++ rest.completed, rest.outcome⟩

@[simp] theorem result_andThen (value : α) (next : α → Assembly β)
    : (result value).andThen next = next value := by
  simp [andThen, result]

@[simp] theorem andThen_result (assembly : Assembly α)
    : assembly.andThen result = assembly := by
  obtain ⟨completed, outcome⟩ := assembly
  cases outcome <;> simp [andThen, result]

/-- Continuations can be grouped either way, since what has been completed only grows at its
end. -/
theorem andThen_assoc {γ : Type} (assembly : Assembly α) (next : α → Assembly β)
    (last : β → Assembly γ)
    : (assembly.andThen next).andThen last = assembly.andThen fun a => (next a).andThen last := by
  obtain ⟨completed, outcome⟩ := assembly
  cases outcome with
  | error obstruction => simp [andThen]
  | ok value =>
      simp only [andThen]
      cases (next value).outcome <;> simp

instance : Monad Assembly where
  pure := result
  bind := andThen

instance : LawfulMonad Assembly :=
  LawfulMonad.mk' _ andThen_result result_andThen andThen_assoc

/-- The refusal of the definition itself. -/
def refuse (refusal : Refusal)
    : Assembly α :=
  ⟨[], .error (.refused [] (.ofDefinition refusal))⟩

/-- An assignment to the schema of the definition itself. -/
def assigned
    : Except Failure α → Assembly α
  | .ok value => result value
  | .error (.refused refusal) => ⟨[], .error (.refused [] (.bySetter refusal))⟩
  | .error (.stopped fault) => ⟨[], .error (.stopped fault)⟩

/-- An obstruction seen from one step further up. -/
def Obstruction.under (step : Step)
    : Obstruction → Obstruction
  | .refused path error => .refused (step :: path) error
  | .stopped fault => .stopped fault

/-- An obstruction that is caught where a definition is compiled: an error of a definition passes,
and any other one is wrapped into an error of the definition here. -/
def Obstruction.caught
    : Obstruction → Obstruction
  | .refused path error =>
      if error.rank.isA .compilation then .refused path error else .refused [] (.wrapping error)
  | .stopped fault => .stopped fault

/-- An assembly whose obstruction is caught. -/
def caught (assembly : Assembly α)
    : Assembly α :=
  { assembly with outcome := assembly.outcome.mapError Obstruction.caught }

/-- An assembly seen from one step further up. -/
def under (step : Step) (assembly : Assembly α)
    : Assembly α :=
  { completed := assembly.completed.map fun part => { part with path := step :: part.path }
    outcome := match assembly.outcome with
      | .ok value => .ok value
      | .error obstruction => .error (Obstruction.under step obstruction) }

/-- A completed schema. -/
def complete (schema : Schema)
    : Assembly Schema :=
  ⟨[⟨schema.kind, []⟩], .ok schema⟩

end Assembly

end Assay.Definition
