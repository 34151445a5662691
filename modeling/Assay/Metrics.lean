import Assay.Fault
import Assay.Number.Basic

/-!
Metrics: counters of validations, of their violations and durations, and of compiled schemas, and
the samples that they give.
-/

namespace Assay

/-- What has been counted. -/
structure Metrics where
  /-- Nothing is counted unless this holds. -/
  available : Bool := true
  valid : Nat := 0
  invalid : Nat := 0
  errors : Nat := 0
  /-- The durations of validations in seconds, the latest first. -/
  durations : List Binary64 := []
  /-- Compiled schemas by the kinds of their roots. -/
  compiled : List (String × Nat) := []

/-- A counter's value under a name and labels. -/
structure Sample where
  name : String
  labels : List String
  value : Nat
deriving DecidableEq, Repr

namespace Metrics

/-- One more validation with its outcome. -/
def countOutcome (metrics : Metrics) (valid : Bool)
    : Metrics :=
  if valid then { metrics with valid := metrics.valid + 1 }
  else { metrics with invalid := metrics.invalid + 1 }

/-- Counts a validation, its violations and its duration. A counter cannot fall, so a negative
number of violations is a fault, after which the outcome stays counted. -/
def recordValidation (metrics : Metrics) (valid : Bool) (errorCount : Int) (duration : Binary64)
    : Except Fault Unit × Metrics :=
  if !metrics.available then (.ok (), metrics)
  else
    let metrics := metrics.countOutcome valid
    if errorCount < 0 then (.error .negativeIncrement, metrics)
    else
      (.ok (), { metrics with
        errors := metrics.errors + errorCount.toNat
        durations := duration :: metrics.durations })

/-- A count by name raised by one. -/
def raise (name : String)
    : List (String × Nat) → List (String × Nat)
  | [] => [(name, 1)]
  | (other, count) :: rest =>
      if other = name then (other, count + 1) :: rest else (other, count) :: raise name rest

/-- Counts a compiled schema by the kind of its root. -/
def recordCompiled (metrics : Metrics) (kind : String)
    : Metrics :=
  if metrics.available then { metrics with compiled := raise kind metrics.compiled } else metrics

/-- The upper bounds of the classes of durations, in seconds. -/
def bounds : List String :=
  ["0.0001", "0.0005", "0.001", "0.005", "0.01", "0.05", "0.1", "0.5", "1.0", "5.0", "+Inf"]

/-- How many durations are at most a bound. -/
def countUpTo (metrics : Metrics) (bound : String)
    : Nat :=
  match Binary64.ofText? bound.toList with
  | none => 0
  | some bound =>
      metrics.durations.countP fun duration =>
        match Number.order? (.float duration) (.float bound) with
        | some order => order != .gt
        | none => false

/-- The samples of the classes of durations, each of which holds the smaller ones too. -/
def bucketSamples (metrics : Metrics)
    : List Sample :=
  bounds.map fun bound =>
    ⟨"jsonconform_validation_duration_seconds_bucket", ["le=" ++ bound], metrics.countUpTo bound⟩

/-- All samples but those of the classes of durations. -/
def plainSamples (metrics : Metrics)
    : List Sample :=
  metrics.compiled.map (fun (kind, count) =>
      ⟨"jsonconform_schemas_compiled_total", ["root_kind=" ++ kind], count⟩)
    ++ [⟨"jsonconform_validation_duration_seconds_count", [], metrics.countUpTo "+Inf"⟩,
      ⟨"jsonconform_validation_errors_total", [], metrics.errors⟩,
      ⟨"jsonconform_validations_total", ["result=invalid"], metrics.invalid⟩,
      ⟨"jsonconform_validations_total", ["result=valid"], metrics.valid⟩]

/-- All samples. -/
def samples (metrics : Metrics)
    : List Sample :=
  metrics.bucketSamples ++ metrics.plainSamples

/-- The order of samples, by name and then by labels. -/
def sampleNotAfter (a b : Sample)
    : Bool :=
  decide ¬ b.name :: b.labels < a.name :: a.labels

/-- The growth of samples, in order, of those that have grown. -/
def growth (before after : List Sample)
    : List Sample :=
  let grown := after.filterMap fun sample =>
    let former := (before.find? fun other =>
      other.name = sample.name ∧ other.labels = sample.labels).elim 0 (·.value)
    if former < sample.value then some { sample with value := sample.value - former } else none
  grown.mergeSort sampleNotAfter

end Metrics

end Assay
