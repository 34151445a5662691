import Assay.Proofs.Schema.VisitOutcomes

/-! One step of a check as two relations, said without lists or order: what is wrong with a value by
itself, and which children it leads to. The visits of a schema are exactly the instances of both.
-/

namespace Assay

variable {α : Type}

-----------------------------------------------------------------------------------------
-- Breaches and edges of a schema at a value
-----------------------------------------------------------------------------------------

/-- A node covers the members that it declares, and those that one of its patterns matches. -/
def ObjectNode.Covers (node : ObjectNode α) (name : String)
    : Prop :=
  (∃ entry ∈ node.properties, entry.1.word = name)
  ∨ ∃ entry ∈ node.patterns, entry.1.occursIn name = .ok true

/-- The labels of required members, as the node calls them: a declared member goes by the label of
its declaration. -/
inductive ObjectNode.Requires (node : ObjectNode α) : Label → Prop
  | declared {label child name} (declared : (label, child) ∈ node.properties)
    (required : name ∈ node.required) (same : name.word = label.word)
    : node.Requires label
  | undeclared {label} (required : label ∈ node.required)
    (undeclared : ∀ entry ∈ node.properties, entry.1.word ≠ label.word)
    : node.Requires label

namespace Schema

/-- What a schema finds wrong with a value by itself. -/
inductive Breaks (formats : Registries) : Schema → Value → Breach → Prop
  | root {schema value complaint}
    (fails : schema.rootComplaint? formats value = .ok (some complaint))
    : Breaks formats schema value (.root complaint)
  | missing {node members label} (required : node.Requires label)
    (absent : Value.member? members label.word = none)
    : Breaks formats (.object node) (.object members) (.missing label)
  | unexpected {node members name value} (denied : node.additional.policy = .deny)
    (present : (name, value) ∈ members) (uncovered : ¬ node.Covers name)
    : Breaks formats (.object node) (.object members) (.unexpected name)

/-- Where an edge leads from a schema and a value that it has nothing to say against as a whole: to
a child, and the part of the value that the child describes. -/
inductive Leads : Schema → Value → Edge → Schema → Value → Prop
  | item {node form items index item} (fits : node.sizeComplaint? items.length = none)
    (found : items[index]? = some item)
    : Leads (.array node) (.array form items) (.item index) node.items item
  | declared {node members label child value} (declared : (label, child) ∈ node.properties)
    (present : Value.member? members label.word = some value)
    : Leads (.object node) (.object members) (.declared label) child value
  | pattern {node members position pattern child name value}
    (listed : node.patterns[position]? = some (pattern, child))
    (present : (name, value) ∈ members) (hit : pattern.occursIn name = .ok true)
    : Leads (.object node) (.object members) (.pattern position name) child value
  | additional {node members child name value} (given : node.additional = .schema child)
    (present : (name, value) ∈ members) (uncovered : ¬ node.Covers name)
    : Leads (.object node) (.object members) (.additional name) child value

/-- The schemas that a node holds as children. -/
inductive Holds : Schema → Schema → Prop
  | items {node} : Holds (.array node) node.items
  | property {node entry} (declared : entry ∈ node.properties) : Holds (.object node) entry.2
  | pattern {node entry} (listed : entry ∈ node.patterns) : Holds (.object node) entry.2
  | additional {node child} (given : node.additional.schema? = some child)
    : Holds (.object node) child

/-- One schema is a node of the tree of another one. -/
def Contains (schema node : Schema)
    : Prop :=
  Relation.ReflTransGen Holds schema node

/-- Edges lead to children. -/
theorem holds_of_leads {schema child : Schema} {value inner : Value} {edge : Edge}
    (leads : schema.Leads value edge child inner)
    : schema.Holds child := by
  cases leads with
  | item => exact .items
  | declared entry => exact .property entry
  | pattern listed => exact .pattern (List.mem_of_getElem? listed)
  | additional given => exact .additional (congrArg Additional.schema? given)

/-- What holds of a schema once it holds of every child that it leads to holds of every schema. -/
@[elab_as_elim]
theorem leadsInduction {motive : Schema → Prop}
    (step
      : ∀ schema,
          (∀ value edge child inner, Leads schema value edge child inner → motive child)
          → motive schema)
    (schema : Schema)
    : motive schema := by
  induction schema using treeInduction with
  | leaf registry node => exact step _ fun _ _ _ _ leads => nomatch leads
  | array node items =>
      refine step _ fun _ _ _ _ leads => ?_
      cases leads with
      | item => exact items
  | object node every =>
      refine step _ fun _ _ _ _ leads => ?_
      cases leads with
      | declared entry => exact every.properties _ entry
      | pattern listed => exact every.patterns _ (List.mem_of_getElem? listed)
      | additional given => exact every.additional _ (congrArg Additional.schema? given)

end Schema

-----------------------------------------------------------------------------------------
-- The visits of an object
-----------------------------------------------------------------------------------------

namespace ObjectNode

theorem declares_iff (node : ObjectNode α) (name : String)
    : node.declares name ↔ ∃ entry ∈ node.properties, entry.1.word = name := by
  simp [declares]

theorem mem_declaredVisit_iff {required : List Label} {members : List (String × Value)}
    {entry : Label × α} {visit : Visit α}
    : visit ∈ declaredVisit required members entry
      ↔ (∃ value,
          Value.member? members entry.1.word = some value
          ∧ visit = .descend (.declared entry.1) entry.2 value)
        ∨ (Value.member? members entry.1.word = none
          ∧ (∃ name ∈ required, name.word = entry.1.word)
          ∧ visit = .report (.missing entry.1)) := by
  cases present : Value.member? members entry.1.word with
  | some value => simp [declaredVisit, present]
  | none =>
      simp only [declaredVisit, present, reduceCtorEq, false_and, exists_false, true_and, false_or]
      split
      · rename_i needed
        have held : ∃ name ∈ required, name.word = entry.1.word := by simpa using needed
        simp [held]
      · rename_i free
        have fails : ¬ ∃ name ∈ required, name.word = entry.1.word := by simpa using free
        simp [fails]

theorem mem_undeclared_iff {node : ObjectNode α} {members : List (String × Value)} {name : Label}
    : name ∈ node.undeclared members
      ↔ name ∈ node.required
        ∧ (∀ entry ∈ node.properties, entry.1.word ≠ name.word)
        ∧ Value.member? members name.word = none := by
  simp [undeclared, declares, Bool.and_eq_true]

theorem mem_patternVisits_iff {name : String} {value : Value}
    {entries : List ((Slot Pattern × α) × Nat)} {visits : List (Visit α)}
    (listed : patternVisits name value entries = .ok visits) {visit : Visit α}
    : visit ∈ visits
      ↔ ∃ entry ∈ entries,
          entry.1.1.occursIn name = .ok true
          ∧ visit = .descend (.pattern entry.2 name) entry.1.2 value := by
  induction entries generalizing visits with
  | nil =>
      obtain rfl := Except.ok.inj listed
      simp
  | cons entry rest ih =>
      obtain ⟨⟨pattern, child⟩, position⟩ := entry
      simp only [patternVisits, bind_eq_ok_iff, pure_eq_ok_iff] at listed
      obtain ⟨hit, searched, others, listed, rfl⟩ := listed
      cases hit <;> simp [searched, ih listed]

/-- The patterns of a node visit a member once for each pattern that its name matches. -/
theorem mem_patternVisits_zipIdx_iff {node : ObjectNode α} {name : String} {value : Value}
    {visits : List (Visit α)}
    (listed : patternVisits name value node.patterns.zipIdx = .ok visits) {visit : Visit α}
    : visit ∈ visits
      ↔ ∃ position pattern child,
          node.patterns[position]? = some (pattern, child)
          ∧ pattern.occursIn name = .ok true
          ∧ visit = .descend (.pattern position name) child value := by
  rw [mem_patternVisits_iff listed]
  constructor
  · rintro ⟨⟨⟨pattern, child⟩, position⟩, member, hit, rfl⟩
    exact ⟨position, pattern, child, List.mem_zipIdx_iff_getElem?.mp member, hit, rfl⟩
  · rintro ⟨position, pattern, child, found, hit, rfl⟩
    exact ⟨((pattern, child), position), List.mem_zipIdx_iff_getElem?.mpr found, hit, rfl⟩

/-- The patterns of a node leave a member alone exactly if its name matches none of them. -/
theorem patternVisits_eq_nil_iff {node : ObjectNode α} {name : String} {value : Value}
    {visits : List (Visit α)}
    (listed : patternVisits name value node.patterns.zipIdx = .ok visits)
    : visits = [] ↔ ¬ ∃ entry ∈ node.patterns, entry.1.occursIn name = .ok true := by
  constructor
  · rintro rfl ⟨⟨pattern, child⟩, member, hit⟩
    obtain ⟨position, found⟩ := List.mem_iff_getElem?.mp member
    have visited := (mem_patternVisits_zipIdx_iff listed).mpr
      ⟨position, pattern, child, found, hit, rfl⟩
    nomatch visited
  · intro unmatched
    refine List.eq_nil_iff_forall_not_mem.mpr fun visit member => unmatched ?_
    obtain ⟨position, pattern, child, found, hit, -⟩ :=
      (mem_patternVisits_zipIdx_iff listed).mp member
    exact ⟨(pattern, child), List.mem_iff_getElem?.mpr ⟨position, found⟩, hit⟩

/-- The visit that a member which nothing covers leads to. -/
inductive Uncovered (additional : Additional α) (name : String) (value : Value) : Visit α → Prop
  | unexpected (denied : additional.policy = .deny)
    : Uncovered additional name value (.report (.unexpected name))
  | descend {child} (given : additional = .schema child)
    : Uncovered additional name value (.descend (.additional name) child value)

theorem mem_additionalVisits_iff {additional : Additional α} {name : String} {value : Value}
    {visits : List (Visit α)} (listed : additionalVisits name value additional = .ok visits)
    {visit : Visit α}
    : visit ∈ visits ↔ Uncovered additional name value visit := by
  unfold additionalVisits at listed
  split at listed
  · obtain rfl := Except.ok.inj listed
    exact iff_of_false List.not_mem_nil nofun
  · obtain rfl := Except.ok.inj listed
    rw [List.mem_singleton]
    constructor
    · rintro rfl
      exact .unexpected rfl
    · intro uncovered
      cases uncovered with
      | unexpected => rfl
      | descend given => cases given
  · obtain rfl := Except.ok.inj listed
    rw [List.mem_singleton]
    constructor
    · rintro rfl
      exact .descend rfl
    · intro uncovered
      cases uncovered with
      | unexpected denied => cases denied
      | descend given =>
          cases given
          rfl
  · cases listed

theorem mem_memberVisits_iff {node : ObjectNode α} {name : String} {value : Value}
    {visits : List (Visit α)} (listed : node.memberVisits name value = .ok visits)
    {visit : Visit α}
    : visit ∈ visits
      ↔ (∃ position pattern child,
          node.patterns[position]? = some (pattern, child)
          ∧ pattern.occursIn name = .ok true
          ∧ visit = .descend (.pattern position name) child value)
        ∨ (¬ node.Covers name ∧ Uncovered node.additional name value visit) := by
  simp only [memberVisits, bind_eq_ok_iff] at listed
  obtain ⟨found, listed, rest⟩ := listed
  have none := patternVisits_eq_nil_iff listed
  rw [← mem_patternVisits_zipIdx_iff listed, Covers, ← declares_iff, not_or, ← none]
  split at rest
  · rename_i free
    obtain ⟨rfl, undeclared⟩ : found = [] ∧ node.declares name = false := by simpa using free
    simp [undeclared, mem_additionalVisits_iff rest]
  · rename_i covered
    obtain rfl := pure_eq_ok_iff.mp rest
    have held : ¬(¬node.declares name = true ∧ found = []) := by simpa [and_comm] using covered
    simp only [held, false_and, or_false]

theorem mem_otherVisits_iff {node : ObjectNode α} {members : List (String × Value)}
    {visits : List (Visit α)} (listed : node.otherVisits members = .ok visits) {visit : Visit α}
    : visit ∈ visits
      ↔ ∃ name value found,
          (name, value) ∈ members
          ∧ node.memberVisits name value = .ok found
          ∧ visit ∈ found := by
  induction members generalizing visits with
  | nil =>
      obtain rfl := Except.ok.inj listed
      simp
  | cons member rest ih =>
      obtain ⟨name, value⟩ := member
      simp only [otherVisits, bind_eq_ok_iff, pure_eq_ok_iff] at listed
      obtain ⟨first, listedFirst, others, listed, rfl⟩ := listed
      rw [List.mem_append, ih listed]
      constructor
      · rintro (member | ⟨name', value', found, present, visited, member⟩)
        · exact ⟨name, value, first, List.mem_cons_self, listedFirst, member⟩
        · exact ⟨name', value', found, List.mem_cons_of_mem _ present, visited, member⟩
      · rintro ⟨name', value', found, present, visited, member⟩
        rcases List.mem_cons.mp present with same | later
        · obtain ⟨rfl, rfl⟩ := Prod.mk.inj same
          obtain rfl := Except.ok.inj (listedFirst.symm.trans visited)
          exact Or.inl member
        · exact Or.inr ⟨name', value', found, later, visited, member⟩

/-- Every member of a document that is listed has been visited. -/
theorem memberVisits_of_otherVisits {node : ObjectNode α} {members : List (String × Value)}
    {visits : List (Visit α)} (listed : node.otherVisits members = .ok visits) {name : String}
    {value : Value} (present : (name, value) ∈ members)
    : ∃ found, node.memberVisits name value = .ok found := by
  induction members generalizing visits with
  | nil => nomatch present
  | cons member rest ih =>
      simp only [otherVisits, bind_eq_ok_iff] at listed
      obtain ⟨first, listedFirst, others, listed, -⟩ := listed
      rcases List.mem_cons.mp present with rfl | later
      · exact ⟨first, listedFirst⟩
      · exact ih listed later

/-- An absent label is reported among the declarations or behind them, by where the node has it
from. -/
theorem missing_mem_iff {node : ObjectNode α} {members : List (String × Value)} {label : Label}
    : ((∃ entry ∈ node.properties,
          Value.member? members entry.1.word = none
          ∧ (∃ name ∈ node.required, name.word = entry.1.word)
          ∧ label = entry.1)
        ∨ label ∈ node.undeclared members)
      ↔ node.Requires label ∧ Value.member? members label.word = none := by
  rw [mem_undeclared_iff]
  constructor
  · rintro (⟨⟨label, child⟩, declared, absent, ⟨name, required, same⟩, rfl⟩ |
      ⟨required, undeclared, absent⟩)
    · exact ⟨.declared declared required same, absent⟩
    · exact ⟨.undeclared required undeclared, absent⟩
  · rintro ⟨needed, absent⟩
    cases needed with
    | declared declared required same =>
        exact Or.inl ⟨_, declared, absent, ⟨_, required, same⟩, rfl⟩
    | undeclared required undeclared => exact Or.inr ⟨required, undeclared, absent⟩

/-- The visits of an object: its declared members, its missing ones, and the members of the
document under patterns or as additional ones. -/
theorem mem_visits_iff {node : ObjectNode α} {members : List (String × Value)}
    {visits : List (Visit α)} (listed : node.visits members = .ok visits) {visit : Visit α}
    : visit ∈ visits
      ↔ (∃ label child value,
          (label, child) ∈ node.properties
          ∧ Value.member? members label.word = some value
          ∧ visit = .descend (.declared label) child value)
        ∨ (∃ label,
            node.Requires label
            ∧ Value.member? members label.word = none
            ∧ visit = .report (.missing label))
        ∨ (∃ name value position pattern child,
            (name, value) ∈ members
            ∧ node.patterns[position]? = some (pattern, child)
            ∧ pattern.occursIn name = .ok true
            ∧ visit = .descend (.pattern position name) child value)
        ∨ (∃ name value,
            (name, value) ∈ members
            ∧ ¬ node.Covers name
            ∧ Uncovered node.additional name value visit) := by
  simp only [ObjectNode.visits, bind_eq_ok_iff, pure_eq_ok_iff] at listed
  obtain ⟨others, listed, rfl⟩ := listed
  simp only [List.mem_append, List.mem_flatMap, List.mem_map, mem_declaredVisit_iff,
    mem_otherVisits_iff listed]
  constructor
  · rintro ((⟨entry, declared, ⟨value, present, rfl⟩ | ⟨absent, required, rfl⟩⟩ |
      ⟨label, undeclared, rfl⟩) | ⟨name, value, found, present, visited, member⟩)
    · exact Or.inl ⟨entry.1, entry.2, value, declared, present, rfl⟩
    · have needed := missing_mem_iff.mp (Or.inl ⟨entry, declared, absent, required, rfl⟩)
      exact Or.inr (Or.inl ⟨entry.1, needed.1, needed.2, rfl⟩)
    · have needed := missing_mem_iff.mp (Or.inr undeclared)
      exact Or.inr (Or.inl ⟨label, needed.1, needed.2, rfl⟩)
    · rcases (mem_memberVisits_iff visited).mp member with
        ⟨position, pattern, child, under, hit, rfl⟩ | ⟨uncovered, member⟩
      · exact Or.inr (Or.inr (Or.inl
          ⟨name, value, position, pattern, child, present, under, hit, rfl⟩))
      · exact Or.inr (Or.inr (Or.inr ⟨name, value, present, uncovered, member⟩))
  · rintro (⟨label, child, value, declared, present, rfl⟩ | ⟨label, needed, absent, rfl⟩ |
      ⟨name, value, position, pattern, child, present, under, hit, rfl⟩ |
      ⟨name, value, present, uncovered, member⟩)
    · exact Or.inl (Or.inl ⟨(label, child), declared, Or.inl ⟨value, present, rfl⟩⟩)
    · rcases missing_mem_iff.mpr ⟨needed, absent⟩ with
        ⟨entry, declared, absent, required, rfl⟩ | undeclared
      · exact Or.inl (Or.inl ⟨entry, declared, Or.inr ⟨absent, required, rfl⟩⟩)
      · exact Or.inl (Or.inr ⟨label, undeclared, rfl⟩)
    · obtain ⟨found, visited⟩ := memberVisits_of_otherVisits listed present
      exact Or.inr ⟨name, value, found, present, visited,
        (mem_memberVisits_iff visited).mpr (Or.inl ⟨position, pattern, child, under, hit, rfl⟩)⟩
    · obtain ⟨found, visited⟩ := memberVisits_of_otherVisits listed present
      exact Or.inr ⟨name, value, found, present, visited,
        (mem_memberVisits_iff visited).mpr (Or.inr ⟨uncovered, member⟩)⟩

end ObjectNode

-----------------------------------------------------------------------------------------
-- The visits of a schema
-----------------------------------------------------------------------------------------

namespace Schema

/-- What a visit is an instance of. -/
def Occurs (formats : Registries) (schema : Schema) (value : Value)
    : Visit Schema → Prop
  | .report breach => Breaks formats schema value breach
  | .descend edge child inner => Leads schema value edge child inner

theorem mem_arrayVisits_iff {node : ArrayNode Schema} {form : ArrayForm} {items : List Value}
    (formats : Registries) (fits : node.sizeComplaint? items.length = none) {visit : Visit Schema}
    : visit ∈ node.visits items ↔ Occurs formats (.array node) (.array form items) visit := by
  simp only [ArrayNode.visits, List.mem_map, Prod.exists]
  constructor
  · rintro ⟨item, index, member, rfl⟩
    exact .item fits (List.mem_zipIdx_iff_getElem?.mp member)
  · intro occurs
    cases visit with
    | report breach =>
        cases occurs with
        | root fails => simp [rootComplaint?, fits] at fails
    | descend edge child inner =>
        cases occurs with
        | item _ found => exact ⟨_, _, List.mem_zipIdx_iff_getElem?.mpr found, rfl⟩

theorem mem_objectVisits_iff {node : ObjectNode Schema} {members : List (String × Value)}
    {visits : List (Visit Schema)} (formats : Registries)
    (listed : node.visits members = .ok visits) {visit : Visit Schema}
    : visit ∈ visits ↔ Occurs formats (.object node) (.object members) visit := by
  rw [ObjectNode.mem_visits_iff listed]
  constructor
  · rintro (⟨label, child, value, declared, present, rfl⟩ | ⟨label, needed, absent, rfl⟩ |
      ⟨name, value, position, pattern, child, present, under, hit, rfl⟩ |
      ⟨name, value, present, uncovered, member⟩)
    · exact .declared declared present
    · exact .missing needed absent
    · exact .pattern under present hit
    · cases member with
      | unexpected denied => exact .unexpected denied present uncovered
      | descend given => exact .additional given present uncovered
  · intro occurs
    cases visit with
    | report breach =>
        cases occurs with
        | root fails => cases fails
        | missing needed absent => exact Or.inr (Or.inl ⟨_, needed, absent, rfl⟩)
        | unexpected denied present uncovered =>
            exact Or.inr (Or.inr (Or.inr
              ⟨_, _, present, uncovered, .unexpected denied⟩))
    | descend edge child inner =>
        cases occurs with
        | declared declared present => exact Or.inl ⟨_, _, _, declared, present, rfl⟩
        | pattern under present hit =>
            exact Or.inr (Or.inr (Or.inl ⟨_, _, _, _, _, present, under, hit, rfl⟩))
        | additional given present uncovered =>
            exact Or.inr (Or.inr (Or.inr
              ⟨_, _, present, uncovered, .descend given⟩))

/-- Below a value that a schema complains about as a whole, nothing else occurs. -/
theorem occurs_of_complaint {formats : Registries} {schema : Schema} {value : Value}
    {complaint : Complaint}
    (fails : schema.rootComplaint? formats value = .ok (some complaint)) {visit : Visit Schema}
    : schema.Occurs formats value visit ↔ visit = .report (.root complaint) := by
  constructor
  · intro occurs
    cases visit with
    | report breach =>
        cases occurs with
        | root fails' =>
            obtain rfl := Option.some.inj (Except.ok.inj (fails.symm.trans fails'))
            rfl
        | missing => nomatch fails
        | unexpected => nomatch fails
    | descend edge child inner =>
        cases occurs with
        | item fits found => simp [rootComplaint?, fits] at fails
        | declared => nomatch fails
        | pattern => nomatch fails
        | additional => nomatch fails
  · rintro rfl
    exact .root fails

/-- The visits of a schema at a value are its breaches and its edges there, all of them and nothing
else. -/
theorem mem_visits_iff {formats : Registries} {schema : Schema} {value : Value}
    {visits : List (Visit Schema)} (listed : schema.visits formats value = .ok visits)
    {visit : Visit Schema}
    : visit ∈ visits ↔ schema.Occurs formats value visit := by
  simp only [Schema.visits, bind_eq_ok_iff] at listed
  obtain ⟨found, fails, listed⟩ := listed
  cases found with
  | some complaint =>
      obtain rfl := pure_eq_ok_iff.mp listed
      rw [occurs_of_complaint fails, List.mem_singleton]
  | none =>
      replace listed : schema.innerVisits value = .ok visits := listed
      unfold innerVisits at listed
      split at listed
      · obtain rfl := Except.ok.inj listed
        exact mem_arrayVisits_iff formats (Except.ok.inj fails)
      · exact mem_objectVisits_iff formats listed
      · rename_i notArray notObject
        obtain rfl := Except.ok.inj listed
        refine iff_of_false List.not_mem_nil fun occurs => ?_
        cases visit with
        | report breach =>
            cases occurs with
            | root fails' => cases fails.symm.trans fails'
            | missing => exact notObject _ _ rfl rfl
            | unexpected => exact notObject _ _ rfl rfl
        | descend edge child inner =>
            cases occurs with
            | item => exact notArray _ _ _ rfl rfl
            | declared => exact notObject _ _ rfl rfl
            | pattern => exact notObject _ _ rfl rfl
            | additional => exact notObject _ _ rfl rfl

-----------------------------------------------------------------------------------------
-- What a check finds, by its steps
-----------------------------------------------------------------------------------------

variable {formats : Registries}

/-- Where a check returns, so does the check of each child that it leads to. -/
theorem returned_of_leads {schema child : Schema} {value inner : Value} {edge : Edge}
    {violations : List Violation} (returned : schema.check formats value = .ok violations)
    (leads : schema.Leads value edge child inner)
    : ∃ found, child.check formats inner = .ok found := by
  obtain ⟨visits, listed, outcome⟩ := (check_eq_ok_iff formats schema).mp returned
  have member : .descend edge child inner ∈ visits := (mem_visits_iff listed).mpr leads
  obtain ⟨found, here⟩ := Visit.outcomes_returns_iff.mp ⟨violations, outcome⟩ _ member
  simp only [Visit.outcome, bind_eq_ok_iff] at here
  obtain ⟨found, here, -⟩ := here
  exact ⟨found, here⟩

/-- A check that returns finds nothing exactly if nothing is wrong with the value by itself and
nothing is found where it leads. -/
theorem eq_nil_iff {schema : Schema} {value : Value} {violations : List Violation}
    (returned : schema.check formats value = .ok violations)
    : violations = []
      ↔ (∀ breach, ¬ schema.Breaks formats value breach)
        ∧ ∀ edge child inner,
            schema.Leads value edge child inner → child.check formats inner = .ok [] := by
  obtain ⟨visits, listed, outcome⟩ := (check_eq_ok_iff formats schema).mp returned
  rw [Visit.outcomes_eq_nil_iff outcome]
  constructor
  · intro silent
    refine ⟨fun breach breaks => ?_, fun edge child inner leads => ?_⟩
    · have found := silent (.report breach) ((mem_visits_iff listed).mpr breaks)
      simp [Visit.outcome] at found
    · exact Visit.outcome_descend_eq_nil_iff.mp
        (silent (.descend edge child inner) ((mem_visits_iff listed).mpr leads))
  · rintro ⟨sound, silent⟩ visit member
    have occurs := (mem_visits_iff listed).mp member
    cases visit with
    | report breach => exact absurd occurs (sound breach)
    | descend edge child inner =>
        exact Visit.outcome_descend_eq_nil_iff.mpr (silent edge child inner occurs)

end Schema

end Assay
