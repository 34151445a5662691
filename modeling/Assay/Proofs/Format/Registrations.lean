import Assay.Change
import Assay.Format.Registry
import Mathlib

/-! Registries under any sequence of registrations, accepted or rejected. All lookups answer from
one map: the last accepted registration of a name, or else what the registry has held all along.
-/

namespace Assay

/-- What is given to register a format. -/
structure Registration where
  name : String
  types : List SimpleType
  check : Value → Except Fault Bool

namespace Registration

/-- A registration is accepted: it has a name, and a type. -/
def Accepted (call : Registration)
    : Prop :=
  call.name ≠ "" ∧ call.types ≠ []

instance (call : Registration) : Decidable call.Accepted :=
  inferInstanceAs (Decidable (call.name ≠ "" ∧ call.types ≠ []))

/-- The format that is registered. -/
def format (call : Registration)
    : Format :=
  ⟨call.types.eraseDups, call.check⟩

/-- The last accepted one of several registrations of a name. -/
def last? (calls : List Registration) (name : String)
    : Option Registration :=
  calls.reverse.find? fun call => decide (call.Accepted ∧ call.name = name)

end Registration

namespace FormatRegistry

variable {registry start : FormatRegistry} {call : Registration} {name : String}

/-- What a registration leaves behind. Its one write comes after the name and the types have been
looked at. -/
def afterCall (registry : FormatRegistry) (call : Registration)
    : FormatRegistry :=
  (Change.write fun registry => registry.register call.name call.types call.check).left registry

/-- The registry after several registrations, one after the other. -/
def afterCalls (registry : FormatRegistry) (calls : List Registration)
    : FormatRegistry :=
  calls.foldl afterCall registry

theorem eraseDups_eq_nil_iff {types : List SimpleType}
    : types.eraseDups = [] ↔ types = [] := by
  cases types with
  | nil => simp
  | cons type rest => simp [List.eraseDups_cons]

/-- A registration that is accepted adds its format, or replaces the one of its name. -/
theorem register_of_accepted (accepted : call.Accepted)
    : registry.register call.name call.types call.check
      = .ok ⟨Value.putMember registry.entries call.name call.format⟩ := by
  have named : ¬call.name.isEmpty := by simpa using accepted.1
  have typed : ¬call.types.eraseDups.isEmpty := by
    rw [List.isEmpty_iff, eraseDups_eq_nil_iff]
    exact accepted.2
  rw [register, if_neg named, if_neg typed]
  rfl

/-- A registration that is not accepted stops. -/
theorem register_of_rejected (rejected : ¬call.Accepted)
    : ∃ fault, registry.register call.name call.types call.check = .error fault := by
  rw [register]
  split
  · exact ⟨_, rfl⟩
  · rename_i named
    split
    · exact ⟨_, rfl⟩
    · rename_i typed
      refine absurd ⟨by simpa using named, fun none => typed ?_⟩ rejected
      rw [none]
      rfl

theorem afterCall_of_accepted (accepted : call.Accepted)
    : registry.afterCall call = ⟨Value.putMember registry.entries call.name call.format⟩ :=
  Change.left_write_of_ok (register_of_accepted accepted)

theorem afterCall_of_rejected (rejected : ¬call.Accepted)
    : registry.afterCall call = registry := by
  obtain ⟨fault, stopped⟩ := @register_of_rejected registry call rejected
  exact Change.left_write_of_error stopped

/-- After an accepted registration its name has its format. -/
theorem get?_afterCall_self (accepted : call.Accepted)
    : (registry.afterCall call).get? call.name = some call.format := by
  rw [afterCall_of_accepted accepted]
  exact Value.lookup_putMember_self _ _ _

/-- Other names have the formats that they had. -/
theorem get?_afterCall_of_ne (other : name ≠ call.name)
    : (registry.afterCall call).get? name = registry.get? name := by
  by_cases accepted : call.Accepted
  · rw [afterCall_of_accepted accepted]
    exact Value.lookup_putMember_of_ne _ _ other
  · rw [afterCall_of_rejected accepted]

-----------------------------------------------------------------------------------------
-- One map behind all lookups
-----------------------------------------------------------------------------------------

/-- The format that a name has after some registrations: that of the last accepted one of the name,
or else the one that it had from the start. -/
def held (start : FormatRegistry) (calls : List Registration) (name : String)
    : Option Format :=
  match Registration.last? calls name with
  | some call => some call.format
  | none => start.get? name

/-- One call more decides for its name, if it is accepted, and leaves the other names alone. -/
theorem held_snoc (calls : List Registration)
    : start.held (calls ++ [call]) name
      = if call.Accepted ∧ call.name = name then some call.format else start.held calls name := by
  unfold held Registration.last?
  rw [List.reverse_append, List.reverse_singleton, List.singleton_append, List.find?_cons]
  by_cases decides : call.Accepted ∧ call.name = name
  · simp [decides]
  · simp [decides]

theorem afterCalls_snoc (calls : List Registration)
    : start.afterCalls (calls ++ [call]) = (start.afterCalls calls).afterCall call := by
  rw [afterCalls, List.foldl_append]
  rfl

/-- The names of a registry stay distinct, call by call. -/
theorem nodup_afterCalls (distinct : (start.entries.map (·.1)).Nodup) (calls : List Registration)
    : ((start.afterCalls calls).entries.map (·.1)).Nodup := by
  induction calls using List.reverseRecOn with
  | nil => exact distinct
  | append_singleton calls call ih =>
      rw [afterCalls_snoc]
      by_cases accepted : call.Accepted
      · rw [afterCall_of_accepted accepted]
        exact Value.nodup_putMember _ _ ih
      · rwa [afterCall_of_rejected accepted]

/-- A name has the format that the calls leave it with, by induction on the calls, the last one of
which decides for its name. -/
theorem get?_afterCalls (start : FormatRegistry) (calls : List Registration) (name : String)
    : (start.afterCalls calls).get? name = start.held calls name := by
  induction calls using List.reverseRecOn with
  | nil => rfl
  | append_singleton calls call ih =>
      rw [afterCalls_snoc, held_snoc]
      by_cases same : call.name = name
      · subst same
        by_cases accepted : call.Accepted
        · rw [if_pos ⟨accepted, rfl⟩, get?_afterCall_self accepted]
        · rw [if_neg fun decides => accepted decides.1, afterCall_of_rejected accepted, ih]
      · rw [if_neg fun decides => same decides.2, get?_afterCall_of_ne (Ne.symm same), ih]

/-- All lookups of a registry answer from one map of names to formats. A name that the map does not
hold goes with every type and is passed by everything. -/
structure AnswersFrom (registry : FormatRegistry) (formats : String → Option Format) : Prop where
  get : ∀ name, registry.get? name = formats name
  isRegistered : ∀ name, registry.isRegistered name = (formats name).isSome
  applicableTypes
    : ∀ name, registry.applicableTypes name = ((formats name).map (·.types)).getD SimpleType.all
  isCompatible
    : ∀ name type,
        registry.isCompatible name type
        ↔ ∀ format, formats name = some format → type ∈ format.types
  check
    : ∀ name format value,
        formats name = some format → registry.check name value = format.check value
  passes : ∀ name value, formats name = none → registry.check name value = .ok true
  names : ∀ name, name ∈ registry.names ↔ (formats name).isSome
  sorted : registry.names.Pairwise (· < ·)

/-- The names that are listed are those that have a format. -/
theorem mem_names_iff
    : name ∈ registry.names ↔ (registry.get? name).isSome := by
  rw [names, List.mem_mergeSort, get?, ← Option.ne_none_iff_isSome, ne_eq, List.lookup_eq_none_iff]
  simp only [List.mem_map, bne_iff_ne, ne_eq, not_forall, not_not, exists_prop,
    eq_comm (a := name)]

/-- The names are listed in order, and each of them once. -/
theorem names_sorted (distinct : (registry.entries.map (·.1)).Nodup)
    : registry.names.Pairwise (· < ·) := by
  have ordered : registry.names.Pairwise fun a b => notAfter a b := by
    refine List.pairwise_mergeSort ?_ ?_ _
    · intro a b c first second
      exact decide_eq_true (le_trans (of_decide_eq_true first) (of_decide_eq_true second))
    · intro a b
      simpa [notAfter] using le_total a b
  have apart : registry.names.Pairwise (· ≠ ·) := (List.mergeSort_perm _ _).nodup_iff.mpr distinct
  exact ordered.imp₂ (fun _ _ le ne => lt_of_le_of_ne (of_decide_eq_true le) ne) apart

/-- Whatever registrations there have been, all lookups answer from the last accepted one of each
name. -/
theorem answersFrom_afterCalls (distinct : (start.entries.map (·.1)).Nodup)
    (calls : List Registration)
    : (start.afterCalls calls).AnswersFrom (start.held calls) := by
  have answers := get?_afterCalls start calls
  refine {
    get := answers
    isRegistered := fun name => by rw [isRegistered, answers]
    applicableTypes := fun name => ?_
    isCompatible := fun name type => ?_
    check := fun name format value held => by rw [check, answers, held]
    passes := fun name value none => by rw [check, answers, none]
    names := fun name => by rw [mem_names_iff, answers]
    sorted := names_sorted (nodup_afterCalls distinct calls)
  }
  · rw [applicableTypes, answers]
    cases start.held calls name <;> rfl
  · rw [isCompatible, applicableTypes, answers]
    cases start.held calls name with
    | none =>
        have every : SimpleType.all.contains type := by cases type <;> rfl
        exact iff_of_true every (by simp)
    | some format => simp

end FormatRegistry

end Assay
