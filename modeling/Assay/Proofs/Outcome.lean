import Assay.Fault
import Mathlib

/-! Steps that may fail, seen from what they return: a chain returns when each of its steps does.
A fault ends the chain and says nothing about the answer.
-/

namespace Assay

section Chain

variable {ε α β γ : Type}

@[simp]
theorem ok_bind (answer : α) (next : α → Except ε β)
    : (Except.ok answer >>= next) = next answer := rfl

@[simp]
theorem error_bind (failure : ε) (next : α → Except ε β)
    : (Except.error failure >>= next) = .error failure := rfl

/-- A chain returns exactly what its second step makes of an answer of the first. -/
theorem bind_eq_ok_iff {first : Except ε α} {next : α → Except ε β} {result : β}
    : (first >>= next) = .ok result
      ↔ ∃ answer, first = .ok answer ∧ next answer = .ok result := by
  cases first with
  | error failure => simp
  | ok answer => simp

/-- A chain fails where its first step does, or where the second one does with an answer of the
first. -/
theorem bind_eq_error_iff {first : Except ε α} {next : α → Except ε β} {failure : ε}
    : (first >>= next) = .error failure
      ↔ first = .error failure ∨ ∃ answer, first = .ok answer ∧ next answer = .error failure := by
  cases first with
  | error failure => simp
  | ok answer => simp

/-- A step that only returns returns its value. -/
theorem pure_eq_ok_iff {value result : α}
    : (pure value : Except ε α) = .ok result ↔ value = result := by
  simp [pure, Except.pure]

/-- An answer that is only put into another form is returned where there is one. -/
theorem bind_pure_eq_ok_iff {step : Except ε α} {form : α → β} {result : β}
    : (step >>= fun answer => pure (form answer)) = .ok result
      ↔ ∃ answer, step = .ok answer ∧ form answer = result := by
  simp only [bind_eq_ok_iff, pure_eq_ok_iff]

/-- A step whose answer is only put into another form fails where the step itself does. -/
theorem bind_pure_eq_error_iff {step : Except ε α} {form : α → β} {failure : ε}
    : (step >>= fun answer => pure (form answer)) = .error failure ↔ step = .error failure := by
  cases step with
  | error other => simp
  | ok answer => exact iff_of_false (fun same => by cases same) (fun same => by cases same)

theorem toOption_eq_some_iff {outcome : Except ε α} {answer : α}
    : outcome.toOption = some answer ↔ outcome = .ok answer := by
  cases outcome with
  | ok other => exact (Option.some_inj).trans (Except.ok.injEq ..).to_iff.symm
  | error failure =>
      refine ⟨fun same => ?_, fun same => ?_⟩
      · cases same
      · cases same

/-- An outcome is an answer rather than a failure. -/
def Returns (outcome : Except ε α)
    : Prop :=
  ∃ answer, outcome = .ok answer

@[simp]
theorem returns_ok (answer : α)
    : Returns (.ok answer : Except ε α) :=
  ⟨answer, rfl⟩

@[simp]
theorem returns_pure (answer : α)
    : Returns (pure answer : Except ε α) :=
  ⟨answer, rfl⟩

@[simp]
theorem not_returns_error (failure : ε)
    : ¬Returns (.error failure : Except ε α) := nofun

/-- What does not return fails. -/
theorem not_returns_iff {outcome : Except ε α}
    : ¬Returns outcome ↔ ∃ failure, outcome = .error failure := by
  cases outcome <;> simp

/-- A chain returns exactly if its first step does, and its second one with what it is given. -/
theorem bind_returns_iff {first : Except ε α} {next : α → Except ε β}
    : Returns (first >>= next) ↔ ∃ answer, first = .ok answer ∧ Returns (next answer) := by
  cases first with
  | error failure => simp
  | ok answer => simp

/-- An answer that is only put into another form is returned where there is one. -/
theorem bind_pure_returns_iff {step : Except ε α} {form : α → β}
    : Returns (step >>= fun answer => pure (form answer)) ↔ Returns step := by
  simp only [bind_returns_iff, returns_pure, and_true]
  rfl

/-- Two steps that are only put together return if each of them does. -/
theorem seq_returns_iff {first : Except ε α} {second : Except ε β} {form : α → β → γ}
    : Returns (do
        let answer ← first
        return form answer (← second))
      ↔ Returns first ∧ Returns second := by
  cases first with
  | error failure => simp
  | ok answer => simpa using! bind_pure_returns_iff

end Chain

/-- The outcome settles a condition: if there is an answer, it is `answer` exactly when the
condition holds. -/
def Settles {α : Type} (outcome : Except Fault α) (answer : α) (condition : Prop)
    : Prop :=
  ∀ result, outcome = .ok result → (result = answer ↔ condition)

namespace Settles

variable {α : Type} {answer : α} {condition other : Prop}

/-- A settled condition may be replaced by an equivalent one. -/
theorem congr {outcome : Except Fault α} (h : Settles outcome answer condition)
    (same : condition ↔ other)
    : Settles outcome answer other :=
  fun result returned => (h result returned).trans same

/-- A fault settles every condition. -/
theorem error (fault : Fault)
    : Settles (.error fault : Except Fault α) answer condition := by
  intro result returned
  nomatch returned

/-- An answer at hand settles whether it is the one asked for. -/
theorem ok {value : α} (h : value = answer ↔ condition)
    : Settles (.ok value) answer condition := by
  intro result returned
  obtain rfl := Except.ok.inj returned
  exact h

/-- A question whose answer decides between nothing and a finding is settled by the question. -/
theorem noneIf {question : Except Fault Bool} {finding : α}
    (h : Settles question true condition)
    : Settles (do if ← question then return none else return some finding) none condition := by
  intro result returned
  obtain ⟨held, asked, rest⟩ := bind_eq_ok_iff.mp returned
  have settled := h held asked
  cases held with
  | false =>
      obtain rfl := pure_eq_ok_iff.mp rest
      simpa using settled
  | true =>
      obtain rfl := pure_eq_ok_iff.mp rest
      simpa using settled

/-- Two searches, of which the second one is made if the first has found nothing, settle both of
their conditions. -/
theorem orElse {first : Except Fault (Option α)} {next : Option α → Except Fault (Option α)}
    (h : Settles first none condition)
    (keeps : ∀ finding, next (some finding) = .ok (some finding))
    (hn : Settles (next none) none other)
    : Settles (first >>= next) none (condition ∧ other) := by
  intro result returned
  obtain ⟨found, searched, rest⟩ := bind_eq_ok_iff.mp returned
  have settled := h found searched
  cases found with
  | none => simpa [settled.mp rfl] using hn result rest
  | some finding =>
      obtain rfl := Except.ok.inj ((keeps finding).symm.trans rest)
      have fails : ¬ condition := fun holds => nomatch settled.mpr holds
      simp [fails]

/-- A question whose answer decides between nothing and a finding returns where the question
does. -/
theorem noneIf_returns_iff {question : Except Fault Bool} {finding : α}
    : Returns (do if ← question then return none else return some finding) ↔ Returns question := by
  cases question with
  | error fault => simp
  | ok answer => cases answer <;> simp

/-- Of two searches in a row, the second one has to return only where the condition of the first
one holds. -/
theorem orElse_returns_iff {first : Except Fault (Option α)}
    {next : Option α → Except Fault (Option α)} (h : Settles first none condition)
    (keeps : ∀ finding, next (some finding) = .ok (some finding))
    : Returns (first >>= next) ↔ Returns first ∧ (condition → Returns (next none)) := by
  rw [bind_returns_iff]
  constructor
  · rintro ⟨found, searched, later⟩
    refine ⟨⟨found, searched⟩, fun holds => ?_⟩
    obtain rfl := (h found searched).mpr holds
    exact later
  · rintro ⟨⟨found, searched⟩, later⟩
    refine ⟨found, searched, ?_⟩
    cases found with
    | none => exact later ((h none searched).mp rfl)
    | some finding => exact ⟨_, keeps finding⟩

end Settles

end Assay
