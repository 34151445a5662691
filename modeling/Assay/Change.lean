/-!
Changes: calls that write to something and can fail before their first write, between two of them,
or not at all. What has been written stays, whether or not the call returns.
-/

namespace Assay

/-- A call that changes a `σ`. It tells what it leaves behind where it returns and where it fails
with an `ε`. -/
abbrev Change (ε σ : Type) : Type → Type :=
  EStateM ε σ

namespace Change

variable {ε σ τ α : Type}

/-- A question that is asked before or between writes. -/
def ask (question : σ → Except ε α)
    : Change ε σ α := do
  MonadExcept.ofExcept (question (← get))

/-- A call of one write, whose value is worked out beforehand. -/
def write (value : σ → Except ε σ)
    : Change ε σ Unit := do
  set (← ask value)

/-- What a call leaves behind, whether or not it returns. -/
def left (change : Change ε σ Unit) (state : σ)
    : σ :=
  match change state with
  | .ok _ later => later
  | .error _ later => later

/-- What a call makes of a state if it returns, and otherwise its failure. -/
def made (change : Change ε σ Unit) (state : σ)
    : Except ε σ :=
  match change state with
  | .ok _ later => .ok later
  | .error failure _ => .error failure

/-- Where a call fails, it leaves the state as it was. -/
def AtomicAt (change : Change ε σ Unit) (state : σ)
    : Prop :=
  ∀ failure, change.made state = .error failure → change.left state = state

/-- A call on a part of something, seen from the whole in which `put` places the part. -/
def within (put : τ → σ) (change : Change ε τ Unit) (part : τ)
    : EStateM.Result ε σ Unit :=
  match change part with
  | .ok _ later => .ok () (put later)
  | .error failure later => .error failure (put later)

theorem bind_apply {β : Type} (first : Change ε σ α) (next : α → Change ε σ β) (state : σ)
    : (first >>= next) state =
      match first state with
      | .ok answer later => next answer later
      | .error failure later => .error failure later := rfl

theorem ask_apply (question : σ → Except ε α) (state : σ)
    : ask question state =
      match question state with
      | .ok answer => .ok answer state
      | .error failure => .error failure state := by
  have asked : ask question state = (MonadExcept.ofExcept (question state) : Change ε σ α) state :=
    rfl
  rw [asked]
  cases question state <;> rfl

theorem modify_apply (put : σ → σ) (state : σ)
    : (modify put : Change ε σ Unit) state = .ok () (put state) := rfl

theorem write_apply (value : σ → Except ε σ) (state : σ)
    : write value state =
      match value state with
      | .ok later => .ok () later
      | .error failure => .error failure state := by
  rw [write, bind_apply, ask_apply]
  cases value state <;> rfl

/-- What one write makes of a state is what has been worked out. -/
@[simp] theorem made_write (value : σ → Except ε σ) (state : σ)
    : (write value).made state = value state := by
  rw [made, write_apply]
  cases value state <;> rfl

/-- A call leaves behind what it makes of a state. -/
theorem left_of_made {change : Change ε σ Unit} {state later : σ}
    (made : change.made state = .ok later)
    : change.left state = later := by
  unfold Change.made at made
  unfold left
  cases result : change state with
  | ok done other =>
      rw [result] at made
      exact Except.ok.inj made
  | error failure other =>
      rw [result] at made
      cases made

/-- A call of one write that returns leaves the value that has been worked out. -/
theorem left_write_of_ok {value : σ → Except ε σ} {state later : σ} (done : value state = .ok later)
    : (write value).left state = later := by
  rw [left, write_apply, done]

/-- A call of one write that fails leaves everything as it was. -/
theorem left_write_of_error {value : σ → Except ε σ} {state : σ} {failure : ε}
    (failed : value state = .error failure)
    : (write value).left state = state := by
  rw [left, write_apply, failed]

theorem atomicAt_of_ok {change : Change ε σ Unit} {state later : σ}
    (done : change state = .ok () later)
    : change.AtomicAt state := by
  intro failure failed
  rw [made, done] at failed
  cases failed

theorem atomicAt_of_error {change : Change ε σ Unit} {state : σ} {failure : ε}
    (failed : change state = .error failure state)
    : change.AtomicAt state := by
  intro _ _
  rw [left, failed]

theorem atomicAt_write (value : σ → Except ε σ) (state : σ)
    : (write value).AtomicAt state := by
  intro failure failed
  exact left_write_of_error ((made_write value state).symm.trans failed)

/-- A call on a part makes of the whole what it makes of the part. -/
theorem made_of_within {whole : Change ε σ Unit} {state : σ} {put : τ → σ}
    {change : Change ε τ Unit} {part : τ} (same : whole state = change.within put part)
    : whole.made state = do return put (← change.made part) := by
  rw [made, same, within, made]
  cases change part <;> rfl

/-- A call on a part leaves the whole with what it leaves of the part. -/
theorem left_of_within {whole : Change ε σ Unit} {state : σ} {put : τ → σ}
    {change : Change ε τ Unit} {part : τ} (same : whole state = change.within put part)
    : whole.left state = put (change.left part) := by
  rw [left, same, within, left]
  cases change part <;> rfl

/-- A call on a part leaves the whole as it was where it leaves the part. -/
theorem atomicAt_of_within {whole : Change ε σ Unit} {state : σ} {put : τ → σ}
    {change : Change ε τ Unit} {part : τ} (same : whole state = change.within put part)
    (here : put part = state) (atomic : change.AtomicAt part)
    : whole.AtomicAt state := by
  intro failure failed
  rw [made_of_within same] at failed
  rw [left_of_within same]
  cases made : change.made part with
  | ok next =>
      rw [made] at failed
      cases failed
  | error failure' => rw [atomic failure' made, here]

end Change

end Assay
