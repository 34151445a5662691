import Assay.Proofs.Leaf.Stopping
import Assay.Proofs.Schema.Walks

/-! Where the check of a schema tree stops without an answer: at the end of a walk, on a part of the
document that the node there stops at by itself.
-/

namespace Assay

variable {α : Type}

-----------------------------------------------------------------------------------------
-- Visits that return
-----------------------------------------------------------------------------------------

namespace ObjectNode

theorem patternVisits_returns_iff {name : String} {value : Value}
    {entries : List ((Slot Pattern × α) × Nat)}
    : Returns (patternVisits name value entries)
      ↔ ∀ entry ∈ entries, Returns (entry.1.1.occursIn name) := by
  induction entries with
  | nil => simp [patternVisits]
  | cons entry rest ih =>
      obtain ⟨⟨pattern, child⟩, position⟩ := entry
      rw [patternVisits, seq_returns_iff, ih, List.forall_mem_cons]

/-- A node has something to say of any additional member if it has a schema where it needs one. -/
theorem additionalVisits_returns {additional : Additional α} (agrees : additional.Agrees)
    (name : String) (value : Value)
    : Returns (additionalVisits name value additional) := by
  obtain ⟨policy, schema?⟩ := additional
  cases policy with
  | allow | deny => exact returns_ok _
  | validate =>
      cases schema? with
      | some child => exact returns_ok _
      | none => exact absurd (agrees.mp rfl) nofun

theorem searched_of_memberVisits {node : ObjectNode α} {name : String} {value : Value}
    (visited : Returns (node.memberVisits name value))
    : ∀ entry ∈ node.patterns, Returns (entry.1.occursIn name) := by
  obtain ⟨found, searched, -⟩ := bind_returns_iff.mp visited
  intro entry listed
  obtain ⟨position, found⟩ := List.mem_iff_getElem?.mp listed
  exact patternVisits_returns_iff.mp ⟨_, searched⟩ (entry, position)
    (List.mem_zipIdx_iff_getElem?.mpr found)

theorem memberVisits_returns_iff {node : ObjectNode α} (agrees : node.additional.Agrees)
    {name : String} {value : Value}
    : Returns (node.memberVisits name value)
      ↔ ∀ entry ∈ node.patterns, Returns (entry.1.occursIn name) := by
  refine ⟨searched_of_memberVisits, fun each => ?_⟩
  have searched : Returns (patternVisits name value node.patterns.zipIdx) := by
    refine patternVisits_returns_iff.mpr fun entry listed => ?_
    exact each entry.1 (List.mem_of_getElem? (List.mem_zipIdx_iff_getElem?.mp listed))
  obtain ⟨found, searched⟩ := searched
  refine bind_returns_iff.mpr ⟨found, searched, ?_⟩
  split
  · exact additionalVisits_returns agrees name value
  · exact returns_pure found

/-- Where the members of a document are visited, each pattern has been searched for in each of their
names. -/
theorem searched_of_otherVisits {node : ObjectNode α} {members : List (String × Value)}
    (visited : Returns (node.otherVisits members))
    : ∀ member ∈ members, ∀ entry ∈ node.patterns, Returns (entry.1.occursIn member.1) := by
  obtain ⟨visits, listed⟩ := visited
  intro member present
  exact searched_of_memberVisits (memberVisits_of_otherVisits listed present)

/-- The members of a document are visited exactly if each pattern can be searched for in each of
their names. -/
theorem otherVisits_returns_iff {node : ObjectNode α} (agrees : node.additional.Agrees)
    {members : List (String × Value)}
    : Returns (node.otherVisits members)
      ↔ ∀ member ∈ members, ∀ entry ∈ node.patterns, Returns (entry.1.occursIn member.1) := by
  induction members with
  | nil => simp [otherVisits]
  | cons member rest ih =>
      obtain ⟨name, value⟩ := member
      rw [otherVisits, seq_returns_iff, ih, memberVisits_returns_iff agrees, List.forall_mem_cons]

end ObjectNode

namespace Schema

variable {formats : Registries}

/-- A check returns exactly if what is met on every walk can be visited, by induction on the
tree. -/
theorem check_returns_iff_visits {schema : Schema} {document : Value}
    : Returns (schema.check formats document)
      ↔ ∀ route node part,
          schema.Walk document route node part → Returns (node.visits formats part) := by
  constructor
  · intro returned route node part walk
    induction walk with
    | here =>
        obtain ⟨violations, returned⟩ := returned
        obtain ⟨visits, listed, -⟩ := (check_eq_ok_iff formats _).mp returned
        exact ⟨visits, listed⟩
    | step leads _ ih =>
        obtain ⟨violations, returned⟩ := returned
        exact ih (returned_of_leads returned leads)
  · intro visited
    induction schema using leadsInduction generalizing document with
    | step schema below =>
        obtain ⟨visits, listed⟩ := visited [] schema document .here
        have each : ∀ visit ∈ visits, Returns (visit.outcome (check formats)) := by
          intro visit member
          have occurs := (mem_visits_iff listed).mp member
          cases visit with
          | report breach => exact returns_ok _
          | descend edge child inner =>
              have checked : Returns (child.check formats inner) :=
                below document edge child inner occurs fun route node part walk =>
                  visited (edge :: route) node part (.step occurs walk)
              exact bind_pure_returns_iff.mpr checked
        obtain ⟨violations, outcome⟩ := Visit.outcomes_returns_iff.mpr each
        exact ⟨violations, (check_eq_ok_iff formats schema).mpr ⟨visits, listed, outcome⟩⟩

-----------------------------------------------------------------------------------------
-- Where a node stops
-----------------------------------------------------------------------------------------

/-- A node stops at a value by itself: its leaf does, a container is asked about what has no kind,
or a search in the name of a member ends with a twisted group. -/
inductive Stops : Schema → Value → Prop
  | leaf {registry node value} (stops : node.Stops value)
    : Stops (.leaf registry node) value
  | array {node value fault} (unknown : value.kind = .error fault)
    : Stops (.array node) value
  | object {node value fault} (unknown : value.kind = .error fault)
    : Stops (.object node) value
  | name {node members name value pattern child} (present : (name, value) ∈ members)
    (listed : (.proper pattern, child) ∈ node.patterns)
    (twisted : pattern.occursIn name = .error .twistedGroup)
    : Stops (.object node) (.object members)

/-- A node is bound to the built-in formats, its patterns have been read, and it has a schema for
additional members where it validates them. -/
inductive Plain (formats : Registries) : Schema → Prop
  | leaf {registry node} (known : formats registry = .builtIn)
    (read : ∀ stray, node.pattern ≠ some (.stray stray))
    : Plain formats (.leaf registry node)
  | array {node}
    : Plain formats (.array node)
  | object {node} (read : ∀ entry ∈ node.patterns, ∃ pattern, entry.1 = .proper pattern)
    (agrees : node.additional.Agrees)
    : Plain formats (.object node)

theorem leaf_visits_returns_iff {registry : RegistryId} {node : Leaf} {value : Value}
    : Returns (visits formats (.leaf registry node) value)
      ↔ Returns (node.complaint? (formats registry) value) := by
  rw [visits, bind_returns_iff]
  constructor
  · rintro ⟨found, judged, -⟩
    exact ⟨found, judged⟩
  · rintro ⟨found, judged⟩
    refine ⟨found, judged, ?_⟩
    cases found with
    | none => exact returns_ok []
    | some complaint => exact returns_pure _

/-- A container that is asked about something else has an answer if that has a kind. -/
theorem container_visits_returns_iff {schema : Schema} {value : Value} {complaint : Complaint}
    (judges
      : schema.rootComplaint? formats value = do
          let _ ← value.kind
          return some complaint)
    : Returns (schema.visits formats value) ↔ Returns value.kind := by
  rw [visits, judges, bind_assoc]
  simp only [pure_bind]
  exact bind_pure_returns_iff

/-- An array stops only at what has no kind. -/
theorem array_stops_iff {node : ArrayNode Schema} {value : Value}
    : Stops (.array node) value ↔ ∃ fault, value.kind = .error fault := by
  constructor
  · intro stops
    cases stops with
    | array unknown => exact ⟨_, unknown⟩
  · rintro ⟨fault, unknown⟩
    exact .array unknown

/-- So does an object, at anything but an object. -/
theorem object_stops_iff {node : ObjectNode Schema} {value : Value}
    (other : ∀ members, value ≠ .object members)
    : Stops (.object node) value ↔ ∃ fault, value.kind = .error fault := by
  constructor
  · intro stops
    cases stops with
    | object unknown => exact ⟨_, unknown⟩
    | name => exact absurd rfl (other _)
  · rintro ⟨fault, unknown⟩
    exact .object unknown

/-- An object is visited if its members are. -/
theorem object_visits_returns_iff {node : ObjectNode Schema} {members : List (String × Value)}
    : Returns (visits formats (.object node) (.object members))
      ↔ Returns (node.otherVisits members) :=
  bind_pure_returns_iff

/-- A pattern that has been read is searched for in the names of members unless the search ends with
a twisted group. -/
theorem members_visits_returns_iff {node : ObjectNode Schema} {members : List (String × Value)}
    (read : ∀ entry ∈ node.patterns, ∃ pattern, entry.1 = .proper pattern)
    (agrees : node.additional.Agrees)
    : Returns (visits formats (.object node) (.object members))
      ↔ ¬Stops (.object node) (.object members) := by
  rw [object_visits_returns_iff, ObjectNode.otherVisits_returns_iff agrees]
  constructor
  · intro searched stops
    cases stops with
    | object unknown => cases unknown
    | name present listed twisted =>
        obtain ⟨hit, found⟩ := searched _ present _ listed
        cases found.symm.trans twisted
  · intro free member present entry listed
    obtain ⟨slot, child⟩ := entry
    obtain ⟨pattern, proper⟩ := read _ listed
    subst proper
    by_contra fails
    obtain ⟨fault, twisted⟩ := not_returns_iff.mp fails
    obtain rfl := Pattern.fault_of_occursIn twisted
    exact free (.name present listed twisted)

/-- A node of the usual kind can be visited at exactly the values that it does not stop at. -/
theorem visits_returns_iff {schema : Schema} (plain : schema.Plain formats) {value : Value}
    : Returns (schema.visits formats value) ↔ ¬schema.Stops value := by
  cases plain with
  | @leaf registry node known read =>
      rw [leaf_visits_returns_iff, known, Leaf.complaint_returns_iff read]
      refine not_congr ⟨.leaf, fun stops => ?_⟩
      cases stops with
      | leaf stops => exact stops
  | @array node =>
      rw [array_stops_iff, ← not_returns_iff, not_not]
      cases value with
      | array form items =>
          refine iff_of_true ?_ (returns_ok _)
          simp only [visits, rootComplaint?, innerVisits, ok_bind]
          cases node.sizeComplaint? items.length with
          | none => exact returns_ok _
          | some complaint => exact returns_pure _
      | _ => exact container_visits_returns_iff rfl
  | @object node read agrees =>
      cases value with
      | object members => exact members_visits_returns_iff read agrees
      | _ =>
          rw [object_stops_iff, ← not_returns_iff, not_not]
          · exact container_visits_returns_iff rfl
          · simp

/-- The check of a tree of usual nodes has an answer about a document exactly if no walk ends where
a node stops. -/
theorem check_returns_iff {schema : Schema} {document : Value}
    (plain : ∀ route node part, schema.Walk document route node part → node.Plain formats)
    : Returns (schema.check formats document)
      ↔ ∀ route node part, schema.Walk document route node part → ¬node.Stops part := by
  rw [check_returns_iff_visits]
  refine forall₄_congr fun route node part walk => ?_
  exact visits_returns_iff (plain route node part walk)

end Schema

end Assay
