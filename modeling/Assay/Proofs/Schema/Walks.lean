import Assay.Proofs.Schema.Distinct

/-! Walks through a schema tree and a document at once, and the findings that are met on them. A
check returns each finding once, at the place that the walk leads to.
-/

namespace Assay

-----------------------------------------------------------------------------------------
-- Walks and findings
-----------------------------------------------------------------------------------------

/-- A walk from a schema and a value along edges that lead somewhere. -/
inductive Schema.Walk : Schema → Value → List Edge → Schema → Value → Prop
  | here {schema value} : Walk schema value [] schema value
  | step {schema value edge child inner route node part}
    (leads : Leads schema value edge child inner) (onward : Walk child inner route node part)
    : Walk schema value (edge :: route) node part

/-- A breach and the route of the walk on which it is met. -/
structure Finding where
  route : List Edge
  breach : Breach

/-- The place in the document that a route leads to. -/
def Edge.location (route : List Edge)
    : String :=
  String.join (route.map (·.segment.text))

namespace Finding

/-- The violation that a finding is returned as: the breach, at the place that the route leads
to. -/
def violation (finding : Finding)
    : Violation :=
  { finding.breach.violation with
    location := Edge.location finding.route ++ finding.breach.violation.location }

/-- A finding seen from one step further up. -/
def nested (edge : Edge) (finding : Finding)
    : Finding :=
  { finding with route := edge :: finding.route }

theorem location_cons (edge : Edge) (route : List Edge)
    : Edge.location (edge :: route) = edge.segment.text ++ Edge.location route := by
  simp [Edge.location]

theorem violation_nested (edge : Edge) (finding : Finding)
    : (finding.nested edge).violation = finding.violation.nested edge.segment := by
  simp [violation, nested, Violation.nested, location_cons, String.append_assoc]

/-- A breach without a route is the violation that it is reported as. -/
theorem violation_here (breach : Breach)
    : violation ⟨[], breach⟩ = breach.violation := by
  simp [violation, Edge.location]

theorem nested_injective (edge : Edge)
    : Function.Injective (nested edge) := by
  rintro ⟨route, breach⟩ ⟨route', breach'⟩ same
  simpa [nested] using same

end Finding

namespace Schema

/-- A finding is met at the end of a walk, where the schema breaks. -/
def Meets (formats : Registries) (schema : Schema) (document : Value) (finding : Finding)
    : Prop :=
  ∃ node value,
    Walk schema document finding.route node value
    ∧ node.Breaks formats value finding.breach

-----------------------------------------------------------------------------------------
-- One step of a walk
-----------------------------------------------------------------------------------------

/-- The children and the parts that a schema leads to have distinct names, as the schema and the
value have. -/
theorem distinct_of_leads {schema child : Schema} {value inner : Value} {edge : Edge}
    (leads : schema.Leads value edge child inner) (distinct : schema.Distinct)
    (names : value.Distinct)
    : child.Distinct ∧ inner.Distinct := by
  refine ⟨distinct_of_holds distinct (holds_of_leads leads), ?_⟩
  cases leads with
  | item _ found =>
      cases names with
      | array each => exact each _ (List.mem_of_getElem? found)
  | declared _ present =>
      cases names with
      | object _ each => exact each _ (Value.mem_of_member? present)
  | pattern _ present _ =>
      cases names with
      | object _ each => exact each _ present
  | additional _ present _ =>
      cases names with
      | object _ each => exact each _ present

/-- An edge leads to one child and one part. -/
theorem leads_unique {schema child other : Schema} {value inner part : Value} {edge : Edge}
    (distinct : schema.Distinct) (names : value.Distinct)
    (leads : schema.Leads value edge child inner) (again : schema.Leads value edge other part)
    : child = other ∧ inner = part := by
  cases leads with
  | item _ found =>
      cases again with
      | item _ found' => exact ⟨rfl, Option.some.inj (found.symm.trans found')⟩
  | declared entry present =>
      cases again with
      | declared entry' present' =>
          cases distinct with
          | object unique =>
              have same := List.inj_on_of_nodup_map unique.declared entry entry' rfl
              exact ⟨(Prod.mk.inj same).2, Option.some.inj (present.symm.trans present')⟩
  | pattern listed present _ =>
      cases again with
      | pattern listed' present' _ =>
          cases names with
          | object unique =>
              have child := Option.some.inj (listed.symm.trans listed')
              have part := List.inj_on_of_nodup_map unique present present' rfl
              exact ⟨(Prod.mk.inj child).2, (Prod.mk.inj part).2⟩
  | additional given present _ =>
      cases again with
      | additional given' present' _ =>
          cases names with
          | object unique =>
              have child := congrArg Additional.schema? (given.symm.trans given')
              have part := List.inj_on_of_nodup_map unique present present' rfl
              exact ⟨Option.some.inj child, (Prod.mk.inj part).2⟩

/-- Walks along one route end at one schema and one value, by induction on the route. -/
theorem walk_unique {schema node other : Schema} {value part rest : Value} {route : List Edge}
    (distinct : schema.Distinct) (names : value.Distinct)
    (walk : schema.Walk value route node part) (again : schema.Walk value route other rest)
    : node = other ∧ part = rest := by
  induction walk with
  | here =>
      cases again with
      | here => exact ⟨rfl, rfl⟩
  | step leads _ ih =>
      cases again with
      | step leads' onward =>
          obtain ⟨rfl, rfl⟩ := leads_unique distinct names leads leads'
          obtain ⟨below, inner⟩ := distinct_of_leads leads distinct names
          exact ih below inner onward

/-- What is met along a visit: its breach, or what is met below its edge. -/
def MeetsAlong (formats : Registries)
    : Visit Schema → Finding → Prop
  | .report breach, finding => finding = ⟨[], breach⟩
  | .descend edge child inner, finding =>
      ∃ below, child.Meets formats inner below ∧ finding = below.nested edge

variable {formats : Registries}

/-- What is met anywhere is met along one of the visits. -/
theorem meets_iff_along {schema : Schema} {value : Value} {visits : List (Visit Schema)}
    (listed : schema.visits formats value = .ok visits) {finding : Finding}
    : schema.Meets formats value finding ↔ ∃ visit ∈ visits, MeetsAlong formats visit finding := by
  constructor
  · obtain ⟨route, breach⟩ := finding
    rintro ⟨node, part, walk, breaks⟩
    cases walk with
    | here => exact ⟨.report breach, (mem_visits_iff listed).mpr breaks, rfl⟩
    | step leads onward =>
        exact ⟨.descend _ _ _, (mem_visits_iff listed).mpr leads, ⟨_, breach⟩,
          ⟨node, part, onward, breaks⟩, rfl⟩
  · rintro ⟨visit, visited, along⟩
    have occurs := (mem_visits_iff listed).mp visited
    cases visit with
    | report breach =>
        obtain rfl := along
        exact ⟨schema, value, .here, occurs⟩
    | descend edge child inner =>
        obtain ⟨below, ⟨node, part, onward, breaks⟩, rfl⟩ := along
        exact ⟨node, part, .step occurs onward, breaks⟩

/-- What is met along a visit shows the tag of the visit. -/
theorem tag_of_meetsAlong {visit other : Visit Schema} {finding : Finding}
    (first : MeetsAlong formats visit finding) (second : MeetsAlong formats other finding)
    : visit.tag = other.tag := by
  cases visit with
  | report breach =>
      obtain rfl := first
      cases other with
      | report breach' =>
          obtain rfl := (Finding.mk.inj second).2
          rfl
      | descend edge child inner =>
          obtain ⟨below, -, same⟩ := second
          nomatch (Finding.mk.inj same).1
  | descend edge child inner =>
      obtain ⟨below, -, rfl⟩ := first
      cases other with
      | report breach' => nomatch (Finding.mk.inj second).1
      | descend edge' child' inner' =>
          obtain ⟨below', -, same⟩ := second
          obtain rfl := (List.cons.inj (Finding.mk.inj same).1).1
          rfl

-----------------------------------------------------------------------------------------
-- Violations and findings
-----------------------------------------------------------------------------------------

/-- Violations stand for findings one by one: exactly those with a property, and none twice. -/
def StandFor (violations : List Violation) (met : Finding → Prop)
    : Prop :=
  ∃ findings : List Finding,
    findings.Nodup
    ∧ (∀ finding, finding ∈ findings ↔ met finding)
    ∧ violations = findings.map (·.violation)

theorem StandFor.congr {violations : List Violation} {met other : Finding → Prop}
    (stand : StandFor violations met) (same : ∀ finding, met finding ↔ other finding)
    : StandFor violations other := by
  obtain ⟨findings, distinct, member, rfl⟩ := stand
  exact ⟨findings, distinct, fun finding => (member finding).trans (same finding), rfl⟩

theorem StandFor.append {first second : List Violation} {met other : Finding → Prop}
    (left : StandFor first met) (right : StandFor second other)
    (apart : ∀ finding, met finding → ¬ other finding)
    : StandFor (first ++ second) fun finding => met finding ∨ other finding := by
  obtain ⟨findings, distinct, member, rfl⟩ := left
  obtain ⟨others, distinct', member', rfl⟩ := right
  refine ⟨findings ++ others, List.nodup_append'.mpr ⟨distinct, distinct', ?_⟩, ?_, ?_⟩
  · exact fun finding here there =>
      apart finding ((member finding).mp here) ((member' finding).mp there)
  · exact fun finding => by rw [List.mem_append, member, member']
  · exact List.map_append.symm

/-- A visit returns what is met along it, if the check of its child returns what is met there. -/
theorem standFor_of_visit {visit : Visit Schema}
    (below
      : ∀ edge child inner found,
          visit = .descend edge child inner
          → child.check formats inner = .ok found
          → StandFor found (child.Meets formats inner))
    {violations : List Violation} (outcome : visit.outcome (check formats) = .ok violations)
    : StandFor violations (MeetsAlong formats visit) := by
  cases visit with
  | report breach =>
      obtain rfl := Except.ok.inj outcome
      exact ⟨[⟨[], breach⟩], List.nodup_singleton _, fun _ => List.mem_singleton,
        by simp [Finding.violation_here]⟩
  | descend edge child inner =>
      simp only [Visit.outcome, bind_eq_ok_iff, pure_eq_ok_iff] at outcome
      obtain ⟨found, checked, rfl⟩ := outcome
      obtain ⟨findings, distinct, member, rfl⟩ := below edge child inner found rfl checked
      refine ⟨findings.map (·.nested edge), distinct.map (Finding.nested_injective edge), ?_, ?_⟩
      · intro finding
        simp only [List.mem_map, member, MeetsAlong, eq_comm]
      · simp [Violation.nestAll, Finding.violation_nested, Function.comp_def]

/-- Visits that are apart return together what is met along each of them. -/
theorem standFor_of_visits {visits : List (Visit Schema)} (apart : Visit.Apart visits)
    (below
      : ∀ edge child inner found,
          .descend edge child inner ∈ visits
          → child.check formats inner = .ok found
          → StandFor found (child.Meets formats inner))
    {violations : List Violation} (outcome : Visit.outcomes (check formats) visits = .ok violations)
    : StandFor violations fun finding => ∃ visit ∈ visits, MeetsAlong formats visit finding := by
  induction visits generalizing violations with
  | nil =>
      obtain rfl := Except.ok.inj outcome
      exact ⟨[], List.nodup_nil, by simp, rfl⟩
  | cons visit rest ih =>
      obtain ⟨fresh, later⟩ := List.pairwise_cons.mp apart
      simp only [Visit.outcomes_cons, bind_eq_ok_iff, pure_eq_ok_iff] at outcome
      obtain ⟨found, here, others, outcome, rfl⟩ := outcome
      have first : StandFor found (MeetsAlong formats visit) :=
        standFor_of_visit (fun edge child inner found same =>
          below edge child inner found (same ▸ List.mem_cons_self)) here
      have second := ih later (fun edge child inner found member =>
        below edge child inner found (List.mem_cons_of_mem _ member)) outcome
      refine (first.append second ?_).congr fun finding => by simp
      rintro finding along ⟨other, member, along'⟩
      exact fresh other member (tag_of_meetsAlong along along')

/-- A check returns what is met, once it does so wherever the schema leads. -/
theorem standFor_step {schema : Schema} {value : Value} (distinct : schema.Distinct)
    (names : value.Distinct)
    (children
      : ∀ edge child inner found,
          schema.Leads value edge child inner
          → child.Distinct
          → inner.Distinct
          → child.check formats inner = .ok found
          → StandFor found (child.Meets formats inner))
    {violations : List Violation} (returned : schema.check formats value = .ok violations)
    : StandFor violations (schema.Meets formats value) := by
  obtain ⟨visits, listed, outcome⟩ := (check_eq_ok_iff formats schema).mp returned
  refine (standFor_of_visits (visits_apart distinct names listed) ?_ outcome).congr
    fun finding => (meets_iff_along listed).symm
  intro edge child inner found member checked
  have leads : schema.Leads value edge child inner := (mem_visits_iff listed).mp member
  obtain ⟨below, part⟩ := distinct_of_leads leads distinct names
  exact children edge child inner found leads below part checked

/-- A check returns what is met on walks, each finding once, by induction on the tree. -/
theorem check_standFor {schema : Schema} (distinct : schema.Distinct) {value : Value}
    (names : value.Distinct) {violations : List Violation}
    (returned : schema.check formats value = .ok violations)
    : StandFor violations (schema.Meets formats value) := by
  induction schema using leadsInduction generalizing value violations with
  | step schema below =>
      exact standFor_step distinct names (fun edge child inner found leads apart part checked =>
        below value edge child inner leads apart part checked) returned

/-- What a schema says of a value as a whole is the only violation that its check returns. -/
theorem check_of_complaint {schema : Schema} {value : Value} {complaint : Complaint}
    (fails : schema.rootComplaint? formats value = .ok (some complaint))
    : schema.check formats value = .ok [.ofComplaint complaint] := by
  refine (check_eq_ok_iff formats schema).mpr ⟨[.report (.root complaint)], ?_, rfl⟩
  simp [Schema.visits, fails, pure, Except.pure]

end Schema

end Assay
