import Assay.Proofs.Outcome
import Assay.Validator

/-! Totals of validations, and metrics as what grows by them. What is recorded one validation and
one compilation at a time is the total of all of them, however they are grouped.
-/

namespace Assay

-----------------------------------------------------------------------------------------
-- Totals
-----------------------------------------------------------------------------------------

/-- Totals are added field by field. -/
instance : Add Statistics where
  add first second :=
    { validated := first.validated + second.validated
      valid := first.valid + second.valid
      invalid := first.invalid + second.invalid
      totalErrors := first.totalErrors + second.totalErrors }

namespace Statistics

/-- The totals of validations, each given by the violations that it has found. -/
def total (findings : List (List Violation))
    : Statistics where
  validated := findings.length
  valid := findings.countP (·.isEmpty)
  invalid := findings.countP (!·.isEmpty)
  totalErrors := (findings.map (·.length)).sum

theorem add_def (first second : Statistics)
    : first + second =
        { validated := first.validated + second.validated
          valid := first.valid + second.valid
          invalid := first.invalid + second.invalid
          totalErrors := first.totalErrors + second.totalErrors } := rfl

@[simp]
theorem add_total_nil (statistics : Statistics)
    : statistics + total [] = statistics := rfl

theorem add_assoc (first second third : Statistics)
    : first + second + third = first + (second + third) := by
  simp only [add_def, Nat.add_assoc]

theorem total_append (first second : List (List Violation))
    : total (first ++ second) = total first + total second := by
  simp only [total, add_def, List.length_append, List.countP_append, List.map_append,
    List.sum_append]

/-- One more validation adds the totals of it alone. -/
theorem counting_eq_add_total (statistics : Statistics) (violations : List Violation)
    : statistics.counting violations = statistics + total [violations] := by
  cases violations <;> simp [counting, total, add_def]

/-- Every validation has found something or nothing. -/
theorem total_validated (findings : List (List Violation))
    : (total findings).validated = (total findings).valid + (total findings).invalid := by
  simp only [total]
  rw [List.length_eq_countP_add_countP (·.isEmpty)]
  congr 1
  exact List.countP_congr fun violations _ => by cases violations <;> simp

/-- Each validation that has found something has found one violation at least, by induction on the
validations. -/
theorem total_invalid_le (findings : List (List Violation))
    : (total findings).invalid ≤ (total findings).totalErrors := by
  induction findings with
  | nil => exact Nat.le_refl 0
  | cons violations rest ih =>
      simp only [total] at ih
      simp only [total, List.countP_cons, List.map_cons, List.sum_cons]
      cases violations with
      | nil => simpa using ih
      | cons first others =>
          simp only [List.isEmpty_cons, Bool.not_false, if_true, List.length_cons]
          omega

end Statistics

-----------------------------------------------------------------------------------------
-- Metrics read as totals
-----------------------------------------------------------------------------------------

namespace Metrics

/-- The totals that the metrics show: what is counted by outcome, the violations, and the number of
durations. -/
def totals (metrics : Metrics)
    : Statistics where
  validated := metrics.countUpTo "+Inf"
  valid := metrics.valid
  invalid := metrics.invalid
  totalErrors := metrics.errors

/-- How many schemas with a root of a kind have been counted. -/
def compiledOf (metrics : Metrics) (kind : SchemaKind)
    : Nat :=
  (metrics.compiled.lookup kind.word).getD 0

/-- A further duration that is a number falls into the class of all durations. -/
theorem countUpTo_of_further {before after : Metrics} {duration : Binary64}
    (further : after.durations = duration :: before.durations)
    (measured : ∀ object, duration ≠ .nan object)
    : after.countUpTo "+Inf" = before.countUpTo "+Inf" + 1 := by
  have bound : Binary64.ofText? "+Inf".toList = some (.infinite false) := by decide +kernel
  simp only [countUpTo, bound, further]
  refine List.countP_cons_of_pos ?_
  cases duration with
  | nan object => exact absurd rfl (measured object)
  | infinite negative => cases negative <;> rfl
  | finite negative mantissa exponent => rfl

/-- A validation that is recorded adds the totals of it alone. -/
theorem totals_recordValidation {metrics : Metrics} (available : metrics.available)
    {duration : Binary64} (measured : ∀ object, duration ≠ .nan object)
    (violations : List Violation)
    : (metrics.recordValidation violations.isEmpty violations.length duration).2.totals
      = metrics.totals + .total [violations] := by
  have notNegative : ¬ (violations.length : Int) < 0 := by omega
  have recorded
      : (metrics.recordValidation violations.isEmpty violations.length duration).2 =
          let outcome := metrics.countOutcome violations.isEmpty
          { outcome with
            errors := outcome.errors + violations.length
            durations := duration :: outcome.durations } := by
    simp [recordValidation, available, notNegative]
  have further
      : (metrics.recordValidation violations.isEmpty violations.length duration).2.durations
        = duration :: metrics.durations := by
    rw [recorded]
    cases violations <;> rfl
  simp only [totals, countUpTo_of_further further measured]
  rw [recorded]
  cases violations with
  | nil => simp [countOutcome, Statistics.add_def, Statistics.total]
  | cons first others => simp [countOutcome, Statistics.add_def, Statistics.total]

theorem recordValidation_of_unavailable {metrics : Metrics}
    (unavailable : metrics.available = false) (valid : Bool) (count : Int) (duration : Binary64)
    : (metrics.recordValidation valid count duration).2 = metrics := by
  simp [recordValidation, unavailable]

@[simp]
theorem available_recordValidation (metrics : Metrics) (valid : Bool) (count : Int)
    (duration : Binary64)
    : (metrics.recordValidation valid count duration).2.available = metrics.available := by
  unfold recordValidation countOutcome
  grind

@[simp]
theorem compiledOf_recordValidation (metrics : Metrics) (valid : Bool) (count : Int)
    (duration : Binary64) (kind : SchemaKind)
    : (metrics.recordValidation valid count duration).2.compiledOf kind
      = metrics.compiledOf kind := by
  unfold compiledOf recordValidation countOutcome
  grind

@[simp]
theorem totals_recordCompiled (metrics : Metrics) (kind : String)
    : (metrics.recordCompiled kind).totals = metrics.totals := by
  unfold recordCompiled
  split <;> rfl

@[simp]
theorem available_recordCompiled (metrics : Metrics) (kind : String)
    : (metrics.recordCompiled kind).available = metrics.available := by
  unfold recordCompiled
  split <;> rfl

theorem recordCompiled_of_unavailable {metrics : Metrics} (unavailable : metrics.available = false)
    (kind : String)
    : metrics.recordCompiled kind = metrics := by
  simp [recordCompiled, unavailable]

/-- Raising the count of a name raises no other one, by induction on the counts. -/
theorem lookup_raise (name other : String) (counts : List (String × Nat))
    : ((raise name counts).lookup other).getD 0
      = (counts.lookup other).getD 0 + if other = name then 1 else 0 := by
  induction counts with
  | nil =>
      by_cases same : other = name
      · simp [raise, same]
      · simp [raise, List.lookup_cons, beq_false_of_ne same, same]
  | cons count rest ih =>
      obtain ⟨first, number⟩ := count
      by_cases raised : first = name
      · by_cases same : other = name
        · simp [raise, raised, same]
        · simp [raise, raised, List.lookup_cons, beq_false_of_ne same, same]
      · by_cases same : other = first
        · simp [raise, raised, same]
        · simp [raise, raised, List.lookup_cons, beq_false_of_ne same, ih]

/-- Counting a schema raises the count of its own kind. -/
theorem compiledOf_recordCompiled {metrics : Metrics} (available : metrics.available)
    (root kind : SchemaKind)
    : (metrics.recordCompiled root.word).compiledOf kind
      = metrics.compiledOf kind + if root = kind then 1 else 0 := by
  have words : kind.word = root.word ↔ root = kind := by
    cases kind <;> cases root <;> decide
  simp only [recordCompiled, available, if_true, compiledOf, lookup_raise, words]

end Metrics

-----------------------------------------------------------------------------------------
-- Growth of metrics
-----------------------------------------------------------------------------------------

/-- What findings of validations and schemas that have been compiled make of metrics. They grow by
the totals where they are kept, which takes a configuration that has them enabled and a library
that counts; otherwise they stay what they are. -/
structure Metrics.Grown (enabled : Bool) (findings : List (List Violation))
    (schemas : List Schema) (before after : Metrics) : Prop where
  available : after.available = before.available
  totals : enabled → before.available → after.totals = before.totals + .total findings
  compiled
    : enabled → before.available → ∀ kind,
        after.compiledOf kind = before.compiledOf kind + schemas.countP (·.kind = kind)
  unkept : ¬(enabled ∧ before.available) → after = before

namespace Metrics.Grown

variable {enabled : Bool}

/-- Nothing found and nothing compiled is no growth. -/
theorem refl (metrics : Metrics)
    : metrics.Grown enabled [] [] metrics where
  available := rfl
  totals _ _ := rfl
  compiled _ _ _ := rfl
  unkept _ := rfl

/-- Growth composes, by appending what has been found and compiled. -/
theorem trans {before between after : Metrics} {early late : List (List Violation)}
    {former latter : List Schema} (first : before.Grown enabled early former between)
    (second : between.Grown enabled late latter after)
    : before.Grown enabled (early ++ late) (former ++ latter) after where
  available := second.available.trans first.available
  totals := by
    intro on available
    rw [second.totals on (first.available.trans available), first.totals on available,
      Statistics.total_append, Statistics.add_assoc]
  compiled := by
    intro on available kind
    rw [second.compiled on (first.available.trans available), first.compiled on available,
      List.countP_append, Nat.add_assoc]
  unkept := by
    intro off
    have still : between = before := first.unkept off
    rw [← still] at off
    rw [second.unkept off, still]

/-- A recorded validation is growth by what it has found. -/
theorem ofValidation (metrics : Metrics) {duration : Binary64}
    (measured : ∀ object, duration ≠ .nan object) (violations : List Violation)
    : metrics.Grown enabled [violations] []
        (if enabled then
          (metrics.recordValidation violations.isEmpty violations.length duration).2
        else metrics) where
  available := by cases enabled <;> simp
  totals := by
    intro on available
    rw [if_pos on, totals_recordValidation available measured]
  compiled := by cases enabled <;> simp
  unkept := by
    intro off
    cases enabled with
    | false => rfl
    | true =>
        have unavailable : metrics.available = false := by simpa using off
        exact recordValidation_of_unavailable unavailable _ _ _

/-- A recorded compilation is growth by its schema. -/
theorem ofCompilation (metrics : Metrics) (schema : Schema)
    : metrics.Grown enabled [] [schema]
        (if enabled then metrics.recordCompiled schema.kind.word else metrics) where
  available := by cases enabled <;> simp
  totals := by cases enabled <;> simp
  compiled := by
    intro on available kind
    rw [if_pos on, compiledOf_recordCompiled available, List.countP_singleton]
    simp
  unkept := by
    intro off
    cases enabled with
    | false => rfl
    | true =>
        have unavailable : metrics.available = false := by simpa using off
        exact recordCompiled_of_unavailable unavailable _

end Metrics.Grown

end Assay
