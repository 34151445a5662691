import Assay.Proofs.Schema.Locations
import Assay.Proofs.Schema.Walks

/-! Places in a document, and which of them findings are about. A walk through a schema leads to the
part at a place; a finding is about that part, or about a member of it or one that it lacks.
-/

namespace Assay

-----------------------------------------------------------------------------------------
-- Places in a document
-----------------------------------------------------------------------------------------

namespace Value

/-- A part stands at a path in a value. -/
inductive At : Value → List Segment → Value → Prop
  | here {value} : At value [] value
  | item {form items index item path part} (found : items[index]? = some item)
    (below : At item path part)
    : At (.array form items) (.index (Int.ofNat index) :: path) part
  | member {members name value path part} (present : (name, value) ∈ members)
    (below : At value path part)
    : At (.object members) (.member name :: path) part

/-- A place in a value is the path of a part, or of a member that an object lacks. -/
inductive Place (value : Value) : List Segment → Prop
  | part {path part} (stands : value.At path part) : Place value path
  | lacking {path members name} (stands : value.At path (.object members))
    (absent : member? members name = none)
    : Place value (path ++ [.member name])

/-- An object somewhere in a value has a member of some name. -/
inductive Names : Value → String → Prop
  | here {members name value} (present : (name, value) ∈ members) : Names (.object members) name
  | item {form items item name} (listed : item ∈ items) (below : Names item name)
    : Names (.array form items) name
  | member {members member value name} (present : (member, value) ∈ members)
    (below : Names value name)
    : Names (.object members) name

theorem names_object_iff {members : List (String × Value)} {name : String}
    : (Value.object members).Names name
      ↔ ∃ member ∈ members, member.1 = name ∨ member.2.Names name := by
  constructor
  · intro names
    cases names with
    | here present => exact ⟨_, present, Or.inl rfl⟩
    | member present below => exact ⟨_, present, Or.inr below⟩
  · intro names
    obtain ⟨⟨member, value⟩, present, rfl | below⟩ := names
    · exact .here present
    · exact .member present below

theorem not_number_names {number : Number} {name : String}
    : ¬(Value.number number).Names name := nofun

/-- What stands further down stands at the longer path, by induction on the first one. -/
theorem at_append {value part other : Value} {path rest : List Segment}
    (stands : value.At path part) (below : part.At rest other)
    : value.At (path ++ rest) other := by
  induction stands with
  | here => exact below
  | item found _ ih => exact .item found (ih below)
  | member present _ ih => exact .member present (ih below)

/-- One part stands at a path where names are distinct. -/
theorem at_unique {value part other : Value} {path : List Segment} (names : value.Distinct)
    (stands : value.At path part) (again : value.At path other)
    : part = other := by
  induction stands with
  | here =>
      cases again with
      | here => rfl
  | item found below ih =>
      cases names with
      | array each =>
          cases again with
          | item found' below' =>
              obtain rfl := Option.some.inj (found.symm.trans found')
              exact ih (each _ (List.mem_of_getElem? found)) below'
  | member present below ih =>
      cases names with
      | object unique each =>
          cases again with
          | member present' below' =>
              have same := List.inj_on_of_nodup_map unique present present' rfl
              obtain rfl := (Prod.mk.inj same).2
              exact ih (each _ present) below'

end Value

-----------------------------------------------------------------------------------------
-- Places of findings
-----------------------------------------------------------------------------------------

/-- The step in the document that an edge goes along, by the name that the member has there. -/
def Edge.step
    : Edge → Segment
  | .item index => .index (Int.ofNat index)
  | .declared label => .member label.word
  | .pattern _ name => .member name
  | .additional name => .member name

/-- The way from a part to what a breach is about: none, or the one to a member. -/
def Breach.way
    : Breach → List Edge
  | .root _ => []
  | .missing label => [.declared label]
  | .unexpected name => [.additional name]

namespace Finding

/-- The way through a document to what a finding is about. -/
def way (finding : Finding)
    : List Edge :=
  finding.route ++ finding.breach.way

/-- The place that a finding is about. -/
def place (finding : Finding)
    : List Segment :=
  finding.way.map (·.step)

/-- A finding is located by its way. -/
theorem location_violation (finding : Finding)
    : finding.violation.location = Edge.location finding.way := by
  obtain ⟨route, breach⟩ := finding
  cases breach <;>
    simp [violation, way, Breach.way, Breach.violation, Edge.location, Edge.segment,
      ObjectNode.missing, ObjectNode.unexpected, Violation.nested, Violation.ofComplaint]

end Finding

-----------------------------------------------------------------------------------------
-- Names that are given as texts
-----------------------------------------------------------------------------------------

/-- A member along an edge is declared by a text. -/
def Edge.InText (edge : Edge)
    : Prop :=
  ∀ label, edge = .declared label → ∃ name, label = .text name

/-- A label that is no text is shown longer than the text that it counts as. -/
theorem Label.length_word_le (label : Label)
    : label.word.length ≤ label.display.length
      ∧ (label.word.length = label.display.length → ∃ name, label = .text name) := by
  cases label with
  | text name => exact ⟨Nat.le_refl _, fun _ => ⟨name, rfl⟩⟩
  | policy policy => cases policy <;> exact ⟨by decide, fun same => absurd same (by decide)⟩

namespace Edge

theorem segment_of_inText {edge : Edge} (inText : edge.InText)
    : edge.segment = edge.step := by
  cases edge with
  | declared label =>
      obtain ⟨name, rfl⟩ := inText label rfl
      rfl
  | _ => rfl

theorem length_step_le (edge : Edge)
    : edge.step.text.length ≤ edge.segment.text.length
      ∧ (edge.step.text.length = edge.segment.text.length → edge.InText) := by
  cases edge with
  | declared label =>
      obtain ⟨shorter, same⟩ := label.length_word_le
      simp only [step, segment, Segment.text, String.length_append]
      refine ⟨Nat.add_le_add_left shorter _, ?_⟩
      intro equal other declared
      obtain rfl := Edge.declared.inj declared
      exact same (Nat.add_left_cancel equal)
  | _ =>
      refine ⟨Nat.le_refl _, ?_⟩
      intro _ label declared
      cases declared

theorem length_location_le (way : List Edge)
    : (Segment.location (way.map (·.step))).length ≤ (location way).length
      ∧ ((Segment.location (way.map (·.step))).length = (location way).length
        → ∀ edge ∈ way, edge.InText) := by
  induction way with
  | nil => exact ⟨Nat.le_refl _, fun _ => nofun⟩
  | cons edge rest ih =>
      obtain ⟨first, same⟩ := edge.length_step_le
      obtain ⟨later, same'⟩ := ih
      rw [List.map_cons, Segment.location_cons, Finding.location_cons, String.length_append,
        String.length_append]
      refine ⟨Nat.add_le_add first later, fun equal => List.forall_mem_cons.mpr ⟨?_, ?_⟩⟩
      · exact same (by omega)
      · exact same' (by omega)

/-- A way is shown as the path that it goes along exactly if all members on it are declared by
texts. -/
theorem location_eq_iff (way : List Edge)
    : location way = Segment.location (way.map (·.step)) ↔ ∀ edge ∈ way, edge.InText := by
  constructor
  · intro same
    exact (length_location_le way).2 (by rw [same])
  · intro inText
    have steps : way.map (·.segment) = way.map (·.step) :=
      List.map_congr_left fun edge listed => segment_of_inText (inText edge listed)
    rw [← steps]
    simp [location, Segment.location, Function.comp_def]

end Edge

namespace Schema

variable {schema child node : Schema} {value inner part document : Value} {edge : Edge}
  {route : List Edge} {formats : Registries}

/-- An edge leads to the part that stands a step further. -/
theorem at_of_leads (leads : schema.Leads value edge child inner) {path : List Segment}
    {rest : Value} (below : inner.At path rest)
    : value.At (edge.step :: path) rest := by
  cases leads with
  | item _ found => exact .item found below
  | declared _ present => exact .member (Value.mem_of_member? present) below
  | pattern _ present => exact .member present below
  | additional _ present => exact .member present below

theorem names_of_leads (leads : schema.Leads value edge child inner) {name : String}
    (below : inner.Names name)
    : value.Names name := by
  cases leads with
  | item _ found => exact .item (List.mem_of_getElem? found) below
  | declared _ present => exact .member (Value.mem_of_member? present) below
  | pattern _ present => exact .member present below
  | additional _ present => exact .member present below

/-- The step of an edge is one to an item or to a member that the value has. -/
theorem isStep_of_leads (leads : schema.Leads value edge child inner)
    (unmarked : ∀ name, value.Names name → Unmarked name)
    : edge.step.IsStep := by
  cases leads with
  | item => exact Int.natCast_nonneg _
  | declared _ present => exact unmarked _ (.here (Value.mem_of_member? present))
  | pattern _ present => exact unmarked _ (.here present)
  | additional _ present => exact unmarked _ (.here present)

/-- A walk leads to the part at the end of its steps, by induction on the walk. -/
theorem at_of_walk (walk : schema.Walk document route node part)
    : document.At (route.map (·.step)) part := by
  induction walk with
  | here => exact .here
  | step leads _ ih => exact at_of_leads leads ih

/-- A walk ends at a node of the tree, by induction on the walk. -/
theorem contains_of_walk (walk : schema.Walk document route node part)
    : schema.Contains node := by
  induction walk with
  | here => exact .refl
  | step leads _ ih => exact .head (holds_of_leads leads) ih

/-- Where no name in the document holds a mark, walks go along steps and end where no name does, by
induction on the walk. -/
theorem isStep_of_walk (walk : schema.Walk document route node part)
    (unmarked : ∀ name, document.Names name → Unmarked name)
    : (∀ step ∈ route.map (·.step), step.IsStep) ∧ ∀ name, part.Names name → Unmarked name := by
  induction walk with
  | here => exact ⟨nofun, unmarked⟩
  | step leads _ ih =>
      obtain ⟨steps, names⟩ := ih fun name below => unmarked name (names_of_leads leads below)
      exact ⟨List.forall_mem_cons.mpr ⟨isStep_of_leads leads unmarked, steps⟩, names⟩

/-- What is found is about a place in the document. -/
theorem place_of_meets {finding : Finding} (met : schema.Meets formats document finding)
    : document.Place finding.place := by
  obtain ⟨route, breach⟩ := finding
  obtain ⟨node, part, walk, breaks⟩ := met
  have stands := at_of_walk walk
  rw [Finding.place, Finding.way, List.map_append]
  cases breaks with
  | root =>
      rw [Breach.way, List.map_nil, List.append_nil]
      exact .part stands
  | missing _ absent => exact .lacking stands absent
  | unexpected _ present _ => exact .part (Value.at_append stands (.member present .here))

/-- The place of what is found consists of steps, where names in the document and names that the
schema requires hold no marks. -/
theorem isStep_of_meets {finding : Finding} (met : schema.Meets formats document finding)
    (unmarked : ∀ name, document.Names name → Unmarked name)
    (required
      : ∀ node label, schema.Contains (.object node) → label ∈ node.required → Unmarked label.word)
    : ∀ step ∈ finding.place, step.IsStep := by
  obtain ⟨route, breach⟩ := finding
  obtain ⟨node, part, walk, breaks⟩ := met
  obtain ⟨steps, names⟩ := isStep_of_walk walk unmarked
  rw [Finding.place, Finding.way, List.map_append]
  refine List.forall_mem_append.mpr ⟨steps, ?_⟩
  cases breaks with
  | root => nofun
  | missing requires =>
      refine List.forall_mem_singleton.mpr ?_
      cases requires with
      | declared _ listed same =>
          show Unmarked _
          rw [← same]
          exact required _ _ (contains_of_walk walk) listed
      | undeclared listed => exact required _ _ (contains_of_walk walk) listed
  | unexpected _ present _ => exact List.forall_mem_singleton.mpr (names _ (.here present))

/-- Findings on ways of which all members are declared by texts have the same location exactly if
they are about the same place. -/
theorem location_eq_iff_place_eq {first second : Finding}
    (met : schema.Meets formats document first) (met' : schema.Meets formats document second)
    (unmarked : ∀ name, document.Names name → Unmarked name)
    (required
      : ∀ node label, schema.Contains (.object node) → label ∈ node.required → Unmarked label.word)
    (inText : ∀ edge ∈ first.way, edge.InText) (inText' : ∀ edge ∈ second.way, edge.InText)
    : first.violation.location = second.violation.location ↔ first.place = second.place := by
  rw [Finding.location_violation, Finding.location_violation, (Edge.location_eq_iff _).mpr inText,
    (Edge.location_eq_iff _).mpr inText']
  constructor
  · exact Segment.location_injOn (isStep_of_meets met unmarked required)
      (isStep_of_meets met' unmarked required)
  · exact congrArg Segment.location

end Schema

end Assay
