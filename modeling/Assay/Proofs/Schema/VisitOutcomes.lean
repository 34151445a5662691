import Assay.Proofs.Outcome
import Assay.Proofs.Schema.Structure
import Assay.Proofs.Schema.Visits

/-! A check is its visits in order, each child checked in its place. Faults may come in another
order than in the check, so the two are compared by what they return.
-/

namespace Assay

variable {α : Type}

namespace Visit

variable {run : α → Checker}

@[simp]
theorem outcomes_nil : outcomes run [] = .ok [] := rfl

theorem outcomes_cons (visit : Visit α) (rest : List (Visit α))
    : outcomes run (visit :: rest) = do
        let found ← visit.outcome run
        return found ++ (← outcomes run rest) := rfl

/-- Visits in two parts return the violations of both. -/
theorem outcomes_append (first second : List (Visit α))
    : outcomes run (first ++ second) = do
        let found ← outcomes run first
        return found ++ (← outcomes run second) := by
  induction first with
  | nil => simp
  | cons visit rest ih =>
      simp only [List.cons_append, outcomes_cons, ih, bind_assoc, pure_bind, List.append_assoc]

theorem outcomes_append_eq_ok_iff {first second : List (Visit α)} {violations : List Violation}
    : outcomes run (first ++ second) = .ok violations
      ↔ ∃ found others,
          outcomes run first = .ok found
          ∧ outcomes run second = .ok others
          ∧ found ++ others = violations := by
  simp only [outcomes_append, bind_eq_ok_iff, pure_eq_ok_iff, exists_and_left]

/-- Visits return together exactly if each of them does. -/
theorem outcomes_returns_iff {visits : List (Visit α)}
    : Returns (outcomes run visits) ↔ ∀ visit ∈ visits, Returns (visit.outcome run) := by
  induction visits with
  | nil => simp
  | cons visit rest ih => rw [outcomes_cons, seq_returns_iff, ih, List.forall_mem_cons]

/-- Visits find nothing together exactly if none of them finds anything. -/
theorem outcomes_eq_nil_iff {visits : List (Visit α)} {violations : List Violation}
    (returned : outcomes run visits = .ok violations)
    : violations = [] ↔ ∀ visit ∈ visits, visit.outcome run = .ok [] := by
  induction visits generalizing violations with
  | nil =>
      obtain rfl := Except.ok.inj returned
      simp
  | cons visit rest ih =>
      simp only [outcomes_cons, bind_eq_ok_iff, pure_eq_ok_iff] at returned
      obtain ⟨found, here, others, later, rfl⟩ := returned
      simp [here, ih later]

theorem outcome_descend_eq_nil_iff {edge : Edge} {child : α} {value : Value}
    : (descend edge child value).outcome run = .ok [] ↔ run child value = .ok [] := by
  simp only [outcome, bind_eq_ok_iff, pure_eq_ok_iff, Violation.nestAll_eq_nil_iff,
    exists_eq_right]

end Visit

/-- The items of an array are checked as its visits, whatever the index of the first one. -/
theorem ArrayNode.itemViolations_eq_outcomes (run : α → Checker) (child : α)
    (items : List Value) (start : Nat)
    : itemViolations (run child) start items
      = Visit.outcomes run
          ((items.zipIdx start).map fun item => .descend (.item item.2) child item.1) := by
  induction items generalizing start with
  | nil => rfl
  | cons item rest ih =>
      simp only [itemViolations, ih, List.zipIdx_cons, List.map_cons, Visit.outcomes_cons,
        Visit.outcome, Edge.segment, bind_assoc, pure_bind]

namespace ObjectNode

variable {run : α → Checker}

/-- The member of an object is checked as the visit of the child that it is handed to. -/
theorem memberViolations_eq_outcome (edge : Edge) (child : α) (name : String) (value : Value)
    (segment : edge.segment = .member name)
    : memberViolations name value (run child) = (Visit.descend edge child value).outcome run := by
  simp [memberViolations, Visit.outcome, segment]

theorem declaredViolations_eq_outcomes (required : List Label)
    (members : List (String × Value)) (entries : List (Label × α))
    : declaredViolations required members (mapEntries run entries)
      = Visit.outcomes run (entries.flatMap (declaredVisit required members)) := by
  induction entries with
  | nil => rfl
  | cons entry rest ih =>
      obtain ⟨name, child⟩ := entry
      have ih' : declaredViolations required members (rest.map fun entry => (entry.1, run entry.2))
          = Visit.outcomes run (rest.flatMap (declaredVisit required members)) := ih
      simp only [mapEntries, List.map_cons, declaredViolations, List.flatMap_cons,
        Visit.outcomes_append, ih']
      cases present : Value.member? members name.word with
      | none =>
          simp only [declaredVisit, present]
          split <;> simp [Visit.outcomes, Visit.outcome, Breach.violation]
      | some value =>
          simp [declaredVisit, present, Visit.outcomes, memberViolations, Visit.outcome,
            Edge.segment]

/-- Required members that are neither declared nor present are reported as breaches. -/
theorem outcomes_missing (names : List Label)
    : Visit.outcomes run (names.map fun name => .report (.missing name))
      = .ok (names.map missing) := by
  induction names with
  | nil => rfl
  | cons name rest ih =>
      simp only [List.map_cons, Visit.outcomes_cons, ih]
      rfl

/-- A member under patterns is checked as its visits, and is matched when there is a visit. -/
theorem patternViolations_eq_ok_iff {name : String} {value : Value}
    {entries : List (Slot Pattern × α)} (start : Nat) {matched : Bool}
    {violations : List Violation}
    : patternViolations name value (mapEntries run entries) = .ok (matched, violations)
      ↔ ∃ visits,
          patternVisits name value (entries.zipIdx start) = .ok visits
          ∧ matched = !visits.isEmpty
          ∧ Visit.outcomes run visits = .ok violations := by
  induction entries generalizing start matched violations with
  | nil => simp [mapEntries, patternViolations, patternVisits, eq_comm]
  | cons entry rest ih =>
      obtain ⟨pattern, child⟩ := entry
      simp only [mapEntries, List.map_cons, patternViolations, List.zipIdx_cons, patternVisits]
      cases pattern.occursIn name with
      | error fault => simp [bind, Except.bind]
      | ok hit =>
          cases hit with
          | false => simpa using! ih (start + 1)
          | true =>
              have edge : (Edge.pattern start name).segment = .member name := rfl
              constructor
              · intro returned
                simp only [ok_bind, if_true, bind_eq_ok_iff, pure_eq_ok_iff,
                  Prod.mk.injEq] at returned
                obtain ⟨found, handed, ⟨hit, others⟩, later, rfl, rfl⟩ := returned
                obtain ⟨visits, listed, -, checked⟩ := (ih (start + 1)).mp later
                refine ⟨.descend (.pattern start name) child value :: visits,
                  by simp [listed, pure, Except.pure], rfl, ?_⟩
                rw [Visit.outcomes_cons, ← memberViolations_eq_outcome _ _ name _ edge, handed,
                  ok_bind, checked]
                rfl
              · rintro ⟨visits, listed, rfl, checked⟩
                simp only [ok_bind, if_true, bind_eq_ok_iff, pure_eq_ok_iff] at listed
                obtain ⟨later, listed, rfl⟩ := listed
                simp only [Visit.outcomes_cons, ← memberViolations_eq_outcome _ _ name _ edge,
                  bind_eq_ok_iff, pure_eq_ok_iff] at checked
                obtain ⟨found, handed, others, checked, rfl⟩ := checked
                have rest := (ih (start + 1)).mpr ⟨later, listed, rfl, checked⟩
                simp only [mapEntries] at rest
                simp [handed, rest, pure, Except.pure]

theorem additionalViolations_eq_outcomes (name : String) (value : Value)
    (additional : Additional α)
    : additionalViolations name value (additional.map run)
      = (additionalVisits name value additional >>= Visit.outcomes run) := by
  obtain ⟨policy, schema?⟩ := additional
  cases policy with
  | allow => rfl
  | deny => rfl
  | validate =>
      cases schema? with
      | none => rfl
      | some child =>
          simp only [Additional.map, Option.map_some, additionalViolations, additionalVisits,
            ok_bind, Visit.outcomes_cons,
            memberViolations_eq_outcome (.additional name) child name value rfl,
            Visit.outcomes_nil, List.append_nil, bind_pure]

/-- What a member's patterns leave to the rest of the node: nothing if there is a visit already or
the member is declared. -/
theorem uncovered_eq_ok_iff (node : ObjectNode α) {name : String} {value : Value}
    {visits : List (Visit α)} {violations : List Violation}
    : (∃ found additional,
        Visit.outcomes run visits = .ok found
        ∧ (if !visits.isEmpty || (node.map run).declares name then pure []
            else additionalViolations name value (node.map run).additional) = .ok additional
        ∧ found ++ additional = violations)
      ↔ ∃ all,
          (if visits.isEmpty && !node.declares name then
            additionalVisits name value node.additional
          else pure visits) = .ok all
          ∧ Visit.outcomes run all = .ok violations := by
  have inner : additionalViolations name value (node.map run).additional
      = (additionalVisits name value node.additional >>= Visit.outcomes run) :=
    additionalViolations_eq_outcomes name value node.additional
  cases visits with
  | nil =>
      cases declared : node.declares name <;>
        simp [declared, inner, pure_eq_ok_iff, bind_eq_ok_iff]
  | cons visit rest => simp [pure_eq_ok_iff]

/-- The first member of a document adds what its patterns find and, if they and the declarations
leave it uncovered, what is said of additional members. -/
theorem otherViolations_cons (node : ObjectNode Checker) (name : String) (value : Value)
    (rest : List (String × Value))
    : otherViolations node ((name, value) :: rest) = do
        let checked ← patternViolations name value node.patterns
        let additional ← (if checked.1 || node.declares name then pure []
          else additionalViolations name value node.additional : Except Fault (List Violation))
        let others ← otherViolations node rest
        return checked.2 ++ additional ++ others := by
  simp only [otherViolations]
  refine bind_congr fun checked => ?_
  split <;> simp

/-- The members of a document are checked as their visits. -/
theorem otherViolations_eq_ok_iff (node : ObjectNode α) {members : List (String × Value)}
    {violations : List Violation}
    : otherViolations (node.map run) members = .ok violations
      ↔ ∃ visits,
          node.otherVisits members = .ok visits ∧ Visit.outcomes run visits = .ok violations := by
  induction members generalizing violations with
  | nil => simp [otherViolations, otherVisits]
  | cons member rest ih =>
      obtain ⟨name, value⟩ := member
      have patterns : (node.map run).patterns = mapEntries run node.patterns := rfl
      simp only [otherViolations_cons, otherVisits, memberVisits, bind_eq_ok_iff, pure_eq_ok_iff,
        patterns]
      constructor
      · rintro ⟨⟨matched, found⟩, checked, additional, uncovered, later, others, rfl⟩
        obtain ⟨visits, listed, rfl, outcome⟩ :=
          (patternViolations_eq_ok_iff 0).mp checked
        obtain ⟨more, listedMore, outcomeMore⟩ := ih.mp others
        obtain ⟨all, listedAll, outcomeAll⟩ :=
          (uncovered_eq_ok_iff node).mp ⟨found, additional, outcome, uncovered, rfl⟩
        refine ⟨_, ⟨_, ⟨visits, listed, listedAll⟩, more, listedMore, rfl⟩, ?_⟩
        exact Visit.outcomes_append_eq_ok_iff.mpr ⟨_, later, outcomeAll, outcomeMore, rfl⟩
      · rintro ⟨_, ⟨_, ⟨visits, listed, listedAll⟩, more, listedMore, rfl⟩, outcome⟩
        obtain ⟨first, later, outcomeFirst, outcomeMore, rfl⟩ :=
          Visit.outcomes_append_eq_ok_iff.mp outcome
        obtain ⟨found, additional, matched, uncovered, rfl⟩ :=
          (uncovered_eq_ok_iff node).mpr ⟨_, listedAll, outcomeFirst⟩
        exact ⟨⟨_, found⟩, (patternViolations_eq_ok_iff 0).mpr ⟨visits, listed, rfl, matched⟩,
          additional, uncovered, later, ih.mpr ⟨more, listedMore, outcomeMore⟩, rfl⟩

theorem undeclaredViolations_map (node : ObjectNode α) (members : List (String × Value))
    : (node.map run).undeclaredViolations members = (node.undeclared members).map missing := by
  simp only [undeclaredViolations, undeclared, declares_map]
  rfl

/-- An object is checked as its visits. -/
theorem check_eq_ok_iff (node : ObjectNode α) {members : List (String × Value)}
    {violations : List Violation}
    : (node.map run).check (.object members) = .ok violations
      ↔ ∃ visits,
          node.visits members = .ok visits ∧ Visit.outcomes run visits = .ok violations := by
  have properties : (node.map run).properties = mapEntries run node.properties := rfl
  have required : (node.map run).required = node.required := rfl
  simp only [check, Value.kind, ok_bind, visits, bind_eq_ok_iff, pure_eq_ok_iff, properties,
    required, declaredViolations_eq_outcomes, undeclaredViolations_map]
  constructor
  · rintro ⟨declared, outcomeDeclared, found, others, rfl⟩
    obtain ⟨visits, listed, outcome⟩ := (otherViolations_eq_ok_iff node).mp others
    refine ⟨_, ⟨visits, listed, rfl⟩, ?_⟩
    exact Visit.outcomes_append_eq_ok_iff.mpr
      ⟨_, found,
        Visit.outcomes_append_eq_ok_iff.mpr ⟨declared, _, outcomeDeclared, outcomes_missing _, rfl⟩,
        outcome, rfl⟩
  · rintro ⟨_, ⟨visits, listed, rfl⟩, outcome⟩
    obtain ⟨first, found, outcomeFirst, outcomeOthers, rfl⟩ :=
      Visit.outcomes_append_eq_ok_iff.mp outcome
    obtain ⟨declared, absent, outcomeDeclared, outcomeAbsent, rfl⟩ :=
      Visit.outcomes_append_eq_ok_iff.mp outcomeFirst
    obtain rfl := Except.ok.inj ((outcomes_missing _).symm.trans outcomeAbsent)
    exact ⟨declared, outcomeDeclared, found,
      (otherViolations_eq_ok_iff node).mpr ⟨visits, listed, outcomeOthers⟩, rfl⟩

end ObjectNode

namespace Schema

/-- Where there is nothing inside a value to visit, a complaint about the value as a whole is the
only visit and the only violation. -/
theorem rootOnly_eq_ok_iff (run : α → Checker) {root : Except Fault (Option Complaint)}
    {violations : List Violation}
    : (do
        match ← root with
        | some complaint => return [Violation.ofComplaint complaint]
        | none => return []) = Except.ok violations
      ↔ ∃ visits,
          (do
            match ← root with
            | some complaint => return [Visit.report (.root complaint)]
            | none => Except.ok []) = Except.ok visits
          ∧ Visit.outcomes run visits = .ok violations := by
  cases root with
  | error fault => simp [bind, Except.bind]
  | ok found =>
      cases found with
      | none => simp [pure_eq_ok_iff]
      | some complaint =>
          simp [pure_eq_ok_iff, Visit.outcomes_cons, Visit.outcome, Breach.violation]

theorem check_array_of_not_array (formats : Registries) (node : ArrayNode Schema) {value : Value}
    (other : ∀ form items, value ≠ .array form items)
    : check formats (.array node) value = do
        match ← rootComplaint? formats (.array node) value with
        | some complaint => return [.ofComplaint complaint]
        | none => return [] := by
  cases value with
  | array form items => exact absurd rfl (other form items)
  | _ => simp only [check_array, ArrayNode.check, rootComplaint?, bind_assoc, pure_bind]

theorem check_object_of_not_object (formats : Registries) (node : ObjectNode Schema)
    {value : Value} (other : ∀ members, value ≠ .object members)
    : check formats (.object node) value = do
        match ← rootComplaint? formats (.object node) value with
        | some complaint => return [.ofComplaint complaint]
        | none => return [] := by
  cases value with
  | object members => exact absurd rfl (other members)
  | _ => simp only [check_object, ObjectNode.check, rootComplaint?, bind_assoc, pure_bind]

/-- The check of a schema returns what its visits lead to, in their order. -/
theorem check_eq_ok_iff (formats : Registries) (schema : Schema) {value : Value}
    {violations : List Violation}
    : schema.check formats value = .ok violations
      ↔ ∃ visits,
          schema.visits formats value = .ok visits
          ∧ Visit.outcomes (check formats) visits = .ok violations := by
  cases schema with
  | leaf registry node => exact rootOnly_eq_ok_iff (check formats)
  | array node =>
      by_cases array : ∃ form items, value = .array form items
      · obtain ⟨form, items, rfl⟩ := array
        have children : (node.map (check formats)).items = check formats node.items := rfl
        have size : (node.map (check formats)).sizeComplaint? items.length
            = node.sizeComplaint? items.length := rfl
        simp only [check_array, ArrayNode.check, Value.kind, visits, rootComplaint?, ok_bind, size,
          children]
        cases node.sizeComplaint? items.length with
        | some complaint =>
            simp [pure_eq_ok_iff, Visit.outcomes_cons, Visit.outcome, Breach.violation]
        | none =>
            simp only [innerVisits, ArrayNode.visits, Except.ok.injEq, exists_eq_left',
              ArrayNode.itemViolations_eq_outcomes (check formats)]
      · have other : ∀ form items, value ≠ .array form items :=
          fun form items same => array ⟨form, items, same⟩
        have inner : innerVisits (.array node) value = .ok [] := by
          cases value with
          | array form items => exact absurd rfl (other form items)
          | _ => rfl
        rw [check_array_of_not_array formats node other, visits, inner]
        exact rootOnly_eq_ok_iff (check formats)
  | object node =>
      by_cases object : ∃ members, value = .object members
      · obtain ⟨members, rfl⟩ := object
        simp only [check_object, ObjectNode.check_eq_ok_iff, visits, rootComplaint?, ok_bind,
          innerVisits]
      · have other : ∀ members, value ≠ .object members :=
          fun members same => object ⟨members, same⟩
        have inner : innerVisits (.object node) value = .ok [] := by
          cases value with
          | object members => exact absurd rfl (other members)
          | _ => rfl
        rw [check_object_of_not_object formats node other, visits, inner]
        exact rootOnly_eq_ok_iff (check formats)

end Schema

end Assay
