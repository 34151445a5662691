import Assay.Proofs.Format.Registrations
import Assay.Proofs.Leaf.Checks
import Assay.Proofs.Store.Trees

/-! Registrations seen from the nodes of a store. A format that is registered or replaced changes
the checks of those leaves that name it, in the registry that it is registered in, and of nothing
else.
-/

namespace Assay

namespace Leaf

variable {formats other : FormatRegistry} {leaf : Leaf} {value : Value}

/-- The format of a leaf is the one of a name. -/
def Uses (leaf : Leaf) (name : String)
    : Prop :=
  ∃ label, leaf.format = some (.proper label) ∧ label.word = name

/-- A leaf consults its registry for the check of its format and for nothing else. -/
theorem check_congr
    (same : ∀ name, leaf.Uses name → formats.check name value = other.check name value)
    : leaf.check formats value = leaf.check other value := by
  have format : leaf.formatComplaint? formats value = leaf.formatComplaint? other value := by
    unfold formatComplaint?
    cases given : leaf.format with
    | none => rfl
    | some slot =>
        cases slot with
        | stray stray => rfl
        | proper label => simp only [Slot.passes, same label.word ⟨label, given, rfl⟩]
  simp only [check, complaint?, firstComplaint?, format]

/-- The check of the format is made behind those of a leaf without one. -/
theorem complaint_formatless
    : leaf.complaint? formats value
        = firstComplaint? [complaint? formats { leaf with format := none },
            leaf.formatComplaint? formats] value := by
  -- the checks before that of the format are the same ones, so they stay under one name
  obtain ⟨before, others⟩ : ∃ before, before = firstComplaint? [leaf.typeComplaint?,
      leaf.enumerationComplaint?, leaf.textComplaint?, leaf.numberComplaint?] := ⟨_, rfl⟩
  have last (value : Value) (check : Value → Except Fault (Option Complaint))
      : firstComplaint? [leaf.typeComplaint?, leaf.enumerationComplaint?, leaf.textComplaint?,
          leaf.numberComplaint?, check] value = firstComplaint? [before, check] value := by
    rw [others]
    exact firstComplaint_snoc [_, _, _, _] check
  have formatless : complaint? formats { leaf with format := none } = before := by
    funext value
    refine (last value _).trans ?_
    rw [firstComplaint?, firstComplaint_singleton]
    cases before value with
    | error fault => rfl
    | ok found => cases found <;> rfl
  rw [formatless, complaint?, last]

/-- A leaf with a format makes the other checks first, and the one of its format on what they find
nothing in. -/
theorem check_of_format {label : Label} (given : leaf.format = some (.proper label))
    : leaf.check formats value = (do
        let violations ← check formats { leaf with format := none } value
        if !violations.isEmpty then return violations
        if ← formats.check label.word value then return []
        else return [.ofComplaint (.notInFormat value label.display)]) := by
  have asked : leaf.formatComplaint? formats value = (do
      if ← formats.check label.word value then return none
      else return some (.notInFormat value label.display)) := by
    rw [formatComplaint?, given]
    rfl
  rw [check, check, complaint_formatless, firstComplaint?, firstComplaint_singleton, asked]
  cases complaint? formats { leaf with format := none } value with
  | error fault => rfl
  | ok found =>
      cases found with
      | some complaint => rfl
      | none =>
          cases formats.check label.word value with
          | error fault => rfl
          | ok passed => cases passed <;> rfl

end Leaf

theorem ObjectNode.map_congr {α β : Type} {f g : α → β} {node : ObjectNode α}
    (same : node.Every fun child => f child = g child)
    : node.map f = node.map g := by
  have entries {γ : Type} {entries : List (γ × α)} (each : ∀ entry ∈ entries, f entry.2 = g entry.2)
      : mapEntries f entries = mapEntries g entries := by
    refine List.map_congr_left fun entry listed => ?_
    rw [each entry listed]
  rw [map, map, entries same.properties, entries same.patterns]
  have additional : node.additional.map f = node.additional.map g := by
    unfold Additional.map
    cases given : node.additional.schema? with
    | none => rfl
    | some child => simp only [Option.map_some, same.additional child given]
  rw [additional]

/-- What the registries hold after a registration in one of them. -/
def Registries.afterCall (formats : Registries) (registry : RegistryId) (call : Registration)
    : Registries :=
  Function.update formats registry ((formats registry).afterCall call)

namespace Store

variable {store : Store} {formats other : Registries} {id : NodeId}

/-- Two nodes are one, or one is below the other. -/
def Reaches (store : Store) (id node : NodeId)
    : Prop :=
  Relation.ReflTransGen store.Holds id node

theorem checkTo_congr {depth : Nat}
    (same
      : ∀ node registry leaf,
          store.Reaches id node
          → store.get? node = some (.leaf registry leaf)
          → leaf.check (formats registry) = leaf.check (other registry))
    : store.checkTo formats depth id = store.checkTo other depth id := by
  induction depth generalizing id with
  | zero => rfl
  | succ depth ih =>
      have below {child : NodeId} (holds : store.Holds id child)
          : store.checkTo formats depth child = store.checkTo other depth child := by
        refine ih fun node registry leaf reaches => ?_
        exact same node registry leaf (.head holds reaches)
      funext value
      rw [checkTo, checkTo]
      cases found : store.get? id with
      | none => rfl
      | some cell =>
          cases cell with
          | leaf registry leaf => exact congrFun (same id registry leaf .refl found) value
          | array node =>
              simp only [ArrayNode.map, below ⟨_, found, .items⟩]
          | object node =>
              have each : node.Every fun child =>
                  store.checkTo formats depth child = store.checkTo other depth child := {
                properties := fun entry declared => below ⟨_, found, .property declared⟩
                patterns := fun entry listed => below ⟨_, found, .pattern listed⟩
                additional := fun child given => below ⟨_, found, .additional given⟩
              }
              simp only [ObjectNode.map_congr each]

/-- A leaf is checked with what its registry holds. -/
theorem check_leaf {registry : RegistryId} {leaf : Leaf}
    (found : store.get? id = some (.leaf registry leaf))
    : store.check formats id = leaf.check (formats registry) := by
  have unfolds : store.unfoldTo 1 id = some (.leaf registry leaf) :=
    unfoldTo_succ_eq_some_iff.mpr ⟨_, found, rfl⟩
  exact check_eq_of_unfoldTo unfolds

/-- A registration changes the check of no node that reaches no leaf with its format in its
registry. -/
theorem check_afterCall_of_unused {registry : RegistryId} {call : Registration}
    (unused
      : ∀ node leaf,
          store.Reaches id node
          → store.get? node = some (.leaf registry leaf)
          → ¬leaf.Uses call.name)
    : store.check (formats.afterCall registry call) id = store.check formats id := by
  refine checkTo_congr fun node place leaf reaches found => ?_
  by_cases here : place = registry
  · subst here
    rw [Registries.afterCall, Function.update_self]
    funext value
    refine Leaf.check_congr fun name uses => ?_
    have other : name ≠ call.name := fun same => unused node leaf reaches found (same ▸ uses)
    rw [FormatRegistry.check, FormatRegistry.check, FormatRegistry.get?_afterCall_of_ne other]
  · rw [Registries.afterCall, Function.update_of_ne here]

/-- A leaf with the format of an accepted registration is checked with what has been registered. -/
theorem check_afterCall_of_format {registry : RegistryId} {call : Registration} {leaf : Leaf}
    {label : Label}
    (accepted : call.Accepted) (found : store.get? id = some (.leaf registry leaf))
    (given : leaf.format = some (.proper label)) (named : label.word = call.name)
    (document : Value)
    : store.check (formats.afterCall registry call) id document = (do
        let violations ← Leaf.check (formats registry) { leaf with format := none } document
        if !violations.isEmpty then return violations
        if ← call.check document then return []
        else return [.ofComplaint (.notInFormat document label.display)]) := by
  have unused (name : String) : ¬Leaf.Uses { leaf with format := none } name := by
    intro uses
    obtain ⟨label, given, -⟩ := uses
    cases given
  have others : Leaf.check ((formats registry).afterCall call) { leaf with format := none } document
      = Leaf.check (formats registry) { leaf with format := none } document :=
    Leaf.check_congr fun name uses => absurd uses (unused name)
  have asked : ((formats registry).afterCall call).check label.word document
      = call.check document := by
    rw [named, FormatRegistry.check, FormatRegistry.get?_afterCall_self accepted]
    rfl
  rw [check_leaf found, Registries.afterCall, Function.update_self, Leaf.check_of_format given,
    others, asked]

/-- After any registrations, accepted or rejected, all lookups of a registry answer from the last
accepted registration of each name, or else from what the registry held at the start; a registration
that is not accepted stops and changes nothing. Whatever the registries of a store hold, one more
registration leaves the check of every node as it was that reaches no leaf of the registry with the
format that is registered. A leaf of the registry with that format is checked with what has just
been registered, behind its other checks. -/
theorem registration_affects_users_only {start : FormatRegistry}
    (distinct : (start.entries.map (·.1)).Nodup) (calls : List Registration)
    : (start.afterCalls calls).AnswersFrom (start.held calls)
      ∧ (∀ call : Registration,
          ¬call.Accepted
          → (∃ fault,
              (start.afterCalls calls).register call.name call.types call.check = .error fault)
            ∧ start.afterCalls (calls ++ [call]) = start.afterCalls calls)
      ∧ ∀ (store : Store) (formats : Registries) (registry : RegistryId) (call : Registration)
          (id : NodeId) (document : Value),
          ((∀ node leaf,
              store.Reaches id node
              → store.get? node = some (.leaf registry leaf)
              → ¬leaf.Uses call.name)
            → store.check (formats.afterCall registry call) id document
              = store.check formats id document)
          ∧ ∀ (leaf : Leaf) (label : Label),
              call.Accepted
              → store.get? id = some (.leaf registry leaf)
              → leaf.format = some (.proper label)
              → label.word = call.name
              → store.check (formats.afterCall registry call) id document = (do
                let violations ← Leaf.check (formats registry) { leaf with format := none } document
                if !violations.isEmpty then return violations
                if ← call.check document then return []
                else return [.ofComplaint (.notInFormat document label.display)]) := by
  refine ⟨FormatRegistry.answersFrom_afterCalls distinct calls, ?_, ?_⟩
  · intro call rejected
    refine ⟨FormatRegistry.register_of_rejected rejected, ?_⟩
    rw [FormatRegistry.afterCalls_snoc, FormatRegistry.afterCall_of_rejected rejected]
  · intro store formats registry call id document
    refine ⟨fun unused => congrFun (check_afterCall_of_unused unused) document, ?_⟩
    intro leaf label accepted found given named
    exact check_afterCall_of_format accepted found given named document

/-- A leaf of even numbers, and an array of dates. -/
def evenAndDates : Store :=
  ⟨#[.leaf defaultRegistry { type := .integer, format := some (.proper (.text "even")) },
    .leaf defaultRegistry { type := .string, format := some (.proper (.text "date")) },
    .array { items := 1 }]⟩

/-- The array and its dates are all that the array reaches. -/
theorem eq_of_reaches_dates {node : NodeId} (reaches : evenAndDates.Reaches 2 node)
    : node = 2 ∨ node = 1 := by
  induction reaches with
  | refl => exact Or.inl rfl
  | tail _ holds ih =>
      obtain ⟨cell, found, holds⟩ := holds
      rcases ih with rfl | rfl <;> cases found <;> cases holds
      exact Or.inr rfl

/-- With two formats and a nameless one registered among the built-in ones, the lookups of the
registry answer from the last accepted registrations, and the nameless one is of no effect. The
registration of `even` leaves a node of dates as it was and makes the other one refuse what is
odd. -/
theorem even_and_dates_registered
    : (FormatRegistry.builtIn.entries.map (·.1)).Nodup
      ∧ (FormatRegistry.builtIn.afterCalls
          [⟨"even", [.integer], Format.evenCheck⟩, ⟨"", [.string], Format.alwaysCheck⟩,
            ⟨"date", [.string], Format.alwaysCheck⟩]).AnswersFrom
          (FormatRegistry.builtIn.held
            [⟨"even", [.integer], Format.evenCheck⟩, ⟨"", [.string], Format.alwaysCheck⟩,
              ⟨"date", [.string], Format.alwaysCheck⟩])
      ∧ ¬(⟨"", [.string], Format.alwaysCheck⟩ : Registration).Accepted
      ∧ FormatRegistry.builtIn.afterCalls
          [⟨"even", [.integer], Format.evenCheck⟩, ⟨"", [.string], Format.alwaysCheck⟩]
        = FormatRegistry.builtIn.afterCalls [⟨"even", [.integer], Format.evenCheck⟩]
      ∧ (⟨"even", [.integer], Format.evenCheck⟩ : Registration).Accepted
      ∧ evenAndDates.check (Registries.afterCall (fun _ => .builtIn) defaultRegistry
          ⟨"even", [.integer], Format.evenCheck⟩) 2 (.list [.string "2024-02-30"])
        = evenAndDates.check (fun _ => .builtIn) 2 (.list [.string "2024-02-30"])
      ∧ evenAndDates.check (Registries.afterCall (fun _ => .builtIn) defaultRegistry
          ⟨"even", [.integer], Format.evenCheck⟩) 0 (.int 3)
        = .ok [.ofComplaint (.notInFormat (.int 3) "even")] := by
  have distinct : (FormatRegistry.builtIn.entries.map (·.1)).Nodup := by decide
  have nameless : ¬(⟨"", [.string], Format.alwaysCheck⟩ : Registration).Accepted := by decide
  have accepted : (⟨"even", [.integer], Format.evenCheck⟩ : Registration).Accepted := by decide
  have registered := registration_affects_users_only distinct
  obtain ⟨frame, -⟩ := (registered []).2.2 evenAndDates (fun _ => .builtIn) defaultRegistry
    ⟨"even", [.integer], Format.evenCheck⟩ 2 (.list [.string "2024-02-30"])
  obtain ⟨-, checked⟩ := (registered []).2.2 evenAndDates (fun _ => .builtIn) defaultRegistry
    ⟨"even", [.integer], Format.evenCheck⟩ 0 (.int 3)
  have unused
      : ∀ node leaf,
          evenAndDates.Reaches 2 node
          → evenAndDates.get? node = some (.leaf defaultRegistry leaf)
          → ¬leaf.Uses "even" := by
    rintro node leaf reaches found ⟨label, given, named⟩
    rcases eq_of_reaches_dates reaches with rfl | rfl <;> cases found
    obtain rfl := Slot.proper.inj (Option.some.inj given)
    revert named
    decide
  exact ⟨distinct, (registered _).1, nameless, ((registered [_]).2.1 _ nameless).2, accepted,
    frame unused, checked _ _ accepted rfl rfl rfl⟩

end Store

end Assay
