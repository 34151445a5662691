import Assay.Proofs.Schema.Places
import Assay.Proofs.Store.Reachable

/-! What locations tell of the places of findings. The location of a path belongs to no other one;
the location of a finding is that of its place unless a member on the way is declared by a constant
instead of a text.
-/

namespace Assay.Store

/-- Paths whose names hold no marks are told from each other by their locations. In a document whose
names hold none, checked by a node of a reachable store that requires no others, each violation
stands for a finding that is about a place in the document, and one part stands at a place. A
finding has the location of its place exactly if all members on its way are declared by texts, and
among those that do, locations are the same exactly if the places are. -/
theorem locations_tell_places (store : Store) (formats : Registries) (depth : Nat) (id : NodeId)
    (schema : Schema) (document : Value) (violations : List Violation)
    : (∀ (path other : List Segment) (complaint complaint' : Complaint),
        (∀ step ∈ path, step.IsStep)
        → (∀ step ∈ other, step.IsStep)
        → (path.foldr Violation.nested (.ofComplaint complaint)).location
          = (other.foldr Violation.nested (.ofComplaint complaint')).location
        → path = other)
      ∧ (store.Reachable
        → store.unfoldTo depth id = some schema
        → document.Distinct
        → store.check formats id document = .ok violations
        → (∀ name, document.Names name → Unmarked name)
        → (∀ node label,
            schema.Contains (.object node) → label ∈ node.required → Unmarked label.word)
        → (∀ path part other, document.At path part → document.At path other → part = other)
          ∧ ∃ findings : List Finding,
              findings.Nodup
              ∧ (∀ finding, finding ∈ findings ↔ schema.Meets formats document finding)
              ∧ violations = findings.map (·.violation)
              ∧ (∀ finding ∈ findings, document.Place finding.place)
              ∧ (∀ finding ∈ findings,
                  finding.violation.location = Segment.location finding.place
                  ↔ ∀ edge ∈ finding.way, edge.InText)
              ∧ ∀ first ∈ findings, ∀ second ∈ findings,
                  (∀ edge ∈ first.way, edge.InText)
                  → (∀ edge ∈ second.way, edge.InText)
                  → (first.violation.location = second.violation.location
                    ↔ first.place = second.place)) := by
  refine ⟨?_, ?_⟩
  · intro path other complaint complaint' plain plain' same
    have outermost (path : List Segment) (complaint : Complaint)
        : (path.foldr Violation.nested (.ofComplaint complaint)).location
          = Segment.location path :=
      (Segment.location_nested path _).trans String.append_empty
    rw [outermost, outermost] at same
    exact Segment.location_injOn plain plain' same
  · intro reachable tree names returned unmarked required
    refine ⟨fun path part other => Value.at_unique names, ?_⟩
    rw [check_eq_of_unfoldTo tree] at returned
    obtain ⟨findings, distinct, met, outcome⟩ :=
      Schema.check_standFor (distinct_of_unfoldTo reachable.distinct tree) names returned
    refine ⟨findings, distinct, met, outcome, ?_, ?_, ?_⟩
    · intro finding found
      exact Schema.place_of_meets ((met finding).mp found)
    · intro finding _
      rw [Finding.location_violation]
      exact Edge.location_eq_iff _
    · intro first found second found' inText inText'
      exact Schema.location_eq_iff_place_eq ((met first).mp found) ((met second).mp found')
        unmarked required inText inText'

/-- An object with a text as its only member. -/
def textInside : Schema :=
  .object { properties := [(.text "ALLOW", .leaf 0 { type := .string })] }

/-- An object that declares one with a text inside it, and a text by a constant that is shown as the
way to the first one. -/
def textTwice : Schema :=
  .object
    { properties :=
        [(.text "AdditionalProperties", textInside),
          (.policy .allow, .leaf 0 { type := .string })] }

/-- Numbers where the object is to have texts. -/
def numberTwice : Value :=
  .object [("allow", .int 1), ("AdditionalProperties", .object [("ALLOW", .int 2)])]

theorem contained_in_textTwice {node : Schema} (contains : textTwice.Contains node)
    : node = textTwice ∨ node = textInside ∨ node = .leaf 0 { type := .string } := by
  induction contains with
  | refl => exact Or.inl rfl
  | tail _ holds ih =>
      rcases ih with rfl | rfl | rfl
      · cases holds with
        | property declared =>
            rcases List.mem_cons.mp declared with rfl | last
            · exact Or.inr (Or.inl rfl)
            · obtain rfl := List.mem_singleton.mp last
              exact Or.inr (Or.inr rfl)
        | pattern listed => nomatch listed
        | additional given => nomatch given
      · cases holds with
        | property declared =>
            obtain rfl := List.mem_singleton.mp declared
            exact Or.inr (Or.inr rfl)
        | pattern listed => nomatch listed
        | additional given => nomatch given
      · nomatch holds

theorem required_of_textTwice {node : ObjectNode Schema}
    (contains : textTwice.Contains (.object node))
    : node.required = [] := by
  rcases contained_in_textTwice contains with same | same | same
  · rw [Schema.object.inj same]
  · rw [Schema.object.inj same]
  · nomatch same

/-- The numbers are found at one location, though at two places, since the way to one of them is not
declared by texts. -/
theorem constant_has_location_of_other
    : ∃ findings : List Finding,
        (∀ finding,
          finding ∈ findings ↔ textTwice.Meets (fun _ => .builtIn) numberTwice finding)
        ∧ findings.map (·.violation)
          = [⟨".AdditionalProperties.ALLOW", "Invalid type: must be a string"⟩,
            ⟨".AdditionalProperties.ALLOW", "Invalid type: must be a string"⟩]
        ∧ ∃ first ∈ findings, ∃ second ∈ findings,
            first.violation.location = second.violation.location
            ∧ first.place ≠ second.place
            ∧ ¬∀ edge ∈ first.way, edge.InText := by
  have compiled :=
    Reachable.empty.after (.compiled ⟨true, 0, .builtIn⟩
      (.object
        [("type", .string "object"),
          ("properties",
            .object
              [("AdditionalProperties",
                .object
                  [("type", .string "object"),
                    ("properties", .object [("ALLOW", .object [("type", .string "string")])])])])]))
  have reachable :=
    compiled.after (.called (fun _ => .builtIn) 2
      (.addProperty (.foreign (.policy .allow)) (.foreign (.node 0 "SimpleTypeSchema" ""))
        (.bool false)))
  have distinct : numberTwice.Distinct := by
    simp [numberTwice, Value.distinct_object_iff, Value.int, Value.Distinct.number]
  have unmarked (name : String) (named : numberTwice.Names name) : Unmarked name := by
    simp [numberTwice, Value.names_object_iff, Value.int, Value.not_number_names] at named
    rcases named with rfl | rfl | rfl <;> decide
  have required (node : ObjectNode Schema) (label : Label)
      (contains : textTwice.Contains (.object node)) (listed : label ∈ node.required)
      : Unmarked label.word := by
    rw [required_of_textTwice contains] at listed
    exact absurd listed List.not_mem_nil
  obtain ⟨-, findings, -, met, outcome, -, located, -⟩ :=
    (locations_tell_places _ (fun _ => .builtIn) 3 2 textTwice numberTwice _).2
      reachable rfl distinct rfl unmarked required
  have constant : textTwice.Meets (fun _ => .builtIn) numberTwice
      ⟨[.declared (.policy .allow)], .root (.notOfType .string)⟩ :=
    ⟨_, _, .step (.declared (List.mem_cons_of_mem _ List.mem_cons_self) rfl) .here, .root rfl⟩
  have nested : textTwice.Meets (fun _ => .builtIn) numberTwice
      ⟨[.declared (.text "AdditionalProperties"), .declared (.text "ALLOW")],
        .root (.notOfType .string)⟩ :=
    ⟨_, _, .step (.declared List.mem_cons_self rfl)
      (.step (.declared List.mem_cons_self rfl) .here), .root rfl⟩
  refine ⟨findings, met, outcome.symm, _, (met _).mpr constant, _, (met _).mpr nested, rfl,
    by decide, ?_⟩
  rw [← located _ ((met _).mpr constant)]
  decide

end Assay.Store
