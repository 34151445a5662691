import Assay.Proofs.Schema.Steps

/-! Names that occur once: in the objects of a document, and in the nodes of a schema. Where they
do, no two visits of a schema at a value report the same breach or go along the same edge.
-/

namespace Assay

variable {α : Type}

-----------------------------------------------------------------------------------------
-- Distinct names
-----------------------------------------------------------------------------------------

/-- No object in a value has two members of the same name. -/
inductive Value.Distinct : Value → Prop
  | null : Value.null.Distinct
  | bool {value} : (Value.bool value).Distinct
  | number {value} : (Value.number value).Distinct
  | string {value} : (Value.string value).Distinct
  | foreign {thing} : (Value.foreign thing).Distinct
  | array {form items} (each : ∀ item ∈ items, Distinct item) : (Value.array form items).Distinct
  | object {members} (names : (members.map (·.1)).Nodup)
    (each : ∀ member ∈ members, Distinct member.2)
    : (Value.object members).Distinct

/-- An object has distinct names if its members do and are named once. -/
theorem Value.distinct_object_iff {members : List (String × Value)}
    : (Value.object members).Distinct
      ↔ (members.map (·.1)).Nodup ∧ ∀ member ∈ members, member.2.Distinct := by
  constructor
  · intro distinct
    cases distinct with
    | object names each => exact ⟨names, each⟩
  · intro distinct
    exact .object distinct.1 distinct.2

/-- A member that is found by its name is there. -/
theorem Value.mem_of_member? {members : List (String × Value)} {name : String} {value : Value}
    (found : member? members name = some value)
    : (name, value) ∈ members := by
  obtain ⟨before, after, rfl, -⟩ := List.lookup_eq_some_iff.mp found
  exact List.mem_append_right _ List.mem_cons_self

/-- A node declares no member twice and requires none twice. -/
structure ObjectNode.Distinct (node : ObjectNode α) : Prop where
  declared : (node.properties.map (·.1.word)).Nodup
  required : (node.required.map (·.word)).Nodup

/-- Every object node of a tree has distinct names. -/
inductive Schema.Distinct : Schema → Prop
  | leaf {registry node} : Distinct (.leaf registry node)
  | array {node} (items : Distinct node.items) : Distinct (.array node)
  | object {node} (names : node.Distinct)
    (properties : ∀ entry ∈ node.properties, Distinct entry.2)
    (patterns : ∀ entry ∈ node.patterns, Distinct entry.2)
    (additional : ∀ child, node.additional.schema? = some child → Distinct child)
    : Distinct (.object node)

theorem Schema.distinct_of_holds {schema child : Schema} (distinct : schema.Distinct)
    (holds : schema.Holds child)
    : child.Distinct := by
  cases holds with
  | items =>
      cases distinct with
      | array items => exact items
  | property declared =>
      cases distinct with
      | object _ properties => exact properties _ declared
  | pattern listed =>
      cases distinct with
      | object _ _ patterns => exact patterns _ listed
  | additional given =>
      cases distinct with
      | object _ _ _ additional => exact additional _ given

/-- The nodes of a tree have distinct names below them where the tree has. -/
theorem Schema.distinct_of_contains {schema node : Schema} (distinct : schema.Distinct)
    (contains : schema.Contains node)
    : node.Distinct := by
  induction contains with
  | refl => exact distinct
  | tail _ holds ih => exact distinct_of_holds ih holds

-----------------------------------------------------------------------------------------
-- Tags of visits
-----------------------------------------------------------------------------------------

namespace Visit

/-- What a visit reports, or the edge that it goes along. -/
def tag
    : Visit α → Breach ⊕ Edge
  | .report breach => .inl breach
  | .descend edge _ _ => .inr edge

/-- The name of the member that a visit is about. -/
def member?
    : Visit α → Option String
  | .report (.root _) => none
  | .report (.missing name) => some name.word
  | .report (.unexpected name) => some name
  | .descend (.item _) _ _ => none
  | .descend (.declared name) _ _ => some name.word
  | .descend (.pattern _ name) _ _ => some name
  | .descend (.additional name) _ _ => some name

/-- Visits about different members have different tags. -/
theorem tag_ne_of_member_ne {first second : Visit α} (other : first.member? ≠ second.member?)
    : first.tag ≠ second.tag := by
  intro same
  refine other ?_
  cases first with
  | report breach =>
      cases second with
      | report _ =>
          obtain rfl := Sum.inl.inj same
          rfl
      | descend => nomatch same
  | descend edge =>
      cases second with
      | report => nomatch same
      | descend =>
          obtain rfl := Sum.inr.inj same
          cases edge <;> rfl

/-- No two of several visits report the same breach or go along the same edge. -/
def Apart (visits : List (Visit α))
    : Prop :=
  visits.Pairwise fun first second => first.tag ≠ second.tag

theorem apart_append {first second : List (Visit α)} (left : Apart first) (right : Apart second)
    (across : ∀ visit ∈ first, ∀ other ∈ second, visit.tag ≠ other.tag)
    : Apart (first ++ second) :=
  List.pairwise_append.mpr ⟨left, right, across⟩

/-- Visits that each concern a member of their own are apart. -/
theorem apart_append_of_members {names others : List String} {first second : List (Visit α)}
    (left : Apart first) (right : Apart second)
    (leftNames : ∀ visit ∈ first, ∃ name ∈ names, visit.member? = some name)
    (rightNames : ∀ visit ∈ second, ∃ name ∈ others, visit.member? = some name)
    (disjoint : ∀ name ∈ names, name ∉ others)
    : Apart (first ++ second) := by
  refine apart_append left right fun visit here other there => ?_
  obtain ⟨name, member, concerns⟩ := leftNames visit here
  obtain ⟨name', member', concerns'⟩ := rightNames other there
  refine tag_ne_of_member_ne fun same => disjoint name member ?_
  obtain rfl := Option.some.inj (concerns.symm.trans (same.trans concerns'))
  exact member'

end Visit

-----------------------------------------------------------------------------------------
-- The visits of arrays and objects are apart
-----------------------------------------------------------------------------------------

theorem ArrayNode.visits_apart (node : ArrayNode α) (items : List Value)
    : Visit.Apart (node.visits items) := by
  refine List.pairwise_map.mpr ?_
  have positions : (items.zipIdx.map (·.2)).Nodup := by
    rw [List.zipIdx_map_snd]
    exact List.nodup_range'
  refine (List.pairwise_map.mp positions).imp fun distinct same => distinct ?_
  exact Edge.item.inj (Sum.inr.inj same)

namespace ObjectNode

theorem member_of_mem_declaredVisit {required : List Label} {members : List (String × Value)}
    {entry : Label × α} {visit : Visit α} (visited : visit ∈ declaredVisit required members entry)
    : visit.member? = some entry.1.word := by
  rcases mem_declaredVisit_iff.mp visited with ⟨value, -, rfl⟩ | ⟨-, -, rfl⟩ <;> rfl

theorem declaredVisit_apart (required : List Label) (members : List (String × Value))
    (entry : Label × α)
    : Visit.Apart (declaredVisit required members entry) := by
  unfold declaredVisit
  split
  · exact List.pairwise_singleton _ _
  · split
    · exact List.pairwise_singleton _ _
    · exact List.Pairwise.nil

theorem declaredVisits_apart (required : List Label) (members : List (String × Value))
    {entries : List (Label × α)} (distinct : (entries.map (·.1.word)).Nodup)
    : Visit.Apart (entries.flatMap (declaredVisit required members)) := by
  induction entries with
  | nil => exact List.Pairwise.nil
  | cons entry rest ih =>
      obtain ⟨fresh, later⟩ := List.nodup_cons.mp distinct
      refine Visit.apart_append_of_members (declaredVisit_apart required members entry) (ih later)
        (fun visit visited => ⟨_, List.mem_singleton_self _, member_of_mem_declaredVisit visited⟩)
        (fun visit visited => ?_) (List.forall_mem_singleton.mpr fresh)
      obtain ⟨other, member, visited⟩ := List.mem_flatMap.mp visited
      exact ⟨_, List.mem_map_of_mem member, member_of_mem_declaredVisit visited⟩

theorem undeclaredVisits_apart {node : ObjectNode α} (members : List (String × Value))
    (distinct : (node.required.map (·.word)).Nodup)
    : Visit.Apart
        ((node.undeclared members).map fun name => (.report (.missing name) : Visit α)) := by
  refine List.pairwise_map.mpr (List.Pairwise.filter _ ?_)
  refine (List.pairwise_map.mp distinct).imp fun different same => different ?_
  exact congrArg Label.word (Breach.missing.inj (Sum.inl.inj same))

theorem patternVisits_apart {name : String} {value : Value} {entries : List (Slot Pattern × α)}
    {start : Nat} {visits : List (Visit α)}
    (listed : patternVisits name value (entries.zipIdx start) = .ok visits)
    : Visit.Apart visits := by
  induction entries generalizing start visits with
  | nil =>
      obtain rfl := Except.ok.inj listed
      exact List.Pairwise.nil
  | cons entry rest ih =>
      obtain ⟨pattern, child⟩ := entry
      simp only [List.zipIdx_cons, patternVisits, bind_eq_ok_iff, pure_eq_ok_iff] at listed
      obtain ⟨hit, -, others, listed, rfl⟩ := listed
      have apart := ih listed
      split
      · refine List.pairwise_cons.mpr ⟨fun visit visited same => ?_, apart⟩
        obtain ⟨⟨entry, position⟩, member, -, rfl⟩ := (mem_patternVisits_iff listed).mp visited
        have later := List.le_snd_of_mem_zipIdx member
        obtain ⟨rfl, -⟩ := Edge.pattern.inj (Sum.inr.inj same)
        exact absurd later (Nat.not_succ_le_self _)
      · exact apart

theorem additionalVisits_apart {additional : Additional α} {name : String} {value : Value}
    {visits : List (Visit α)} (listed : additionalVisits name value additional = .ok visits)
    : Visit.Apart visits := by
  unfold additionalVisits at listed
  split at listed
  · obtain rfl := Except.ok.inj listed
    exact List.Pairwise.nil
  · obtain rfl := Except.ok.inj listed
    exact List.pairwise_singleton _ _
  · obtain rfl := Except.ok.inj listed
    exact List.pairwise_singleton _ _
  · cases listed

theorem memberVisits_apart {node : ObjectNode α} {name : String} {value : Value}
    {visits : List (Visit α)} (listed : node.memberVisits name value = .ok visits)
    : Visit.Apart visits := by
  simp only [memberVisits, bind_eq_ok_iff] at listed
  obtain ⟨found, listed, rest⟩ := listed
  split at rest
  · exact additionalVisits_apart rest
  · obtain rfl := pure_eq_ok_iff.mp rest
    exact patternVisits_apart listed

/-- The visits of a member as one of the document are about the member, along an edge that is no
declaration. -/
theorem tag_of_mem_memberVisits {node : ObjectNode α} {name : String} {value : Value}
    {visits : List (Visit α)} (listed : node.memberVisits name value = .ok visits)
    {visit : Visit α} (visited : visit ∈ visits)
    : visit.member? = some name
      ∧ (∀ label, visit.tag ≠ .inl (.missing label))
      ∧ ∀ label, visit.tag ≠ .inr (.declared label) := by
  rcases (mem_memberVisits_iff listed).mp visited with
    ⟨position, pattern, child, -, -, rfl⟩ | ⟨-, visited⟩
  · exact ⟨rfl, nofun, nofun⟩
  · cases visited with
    | unexpected => exact ⟨rfl, nofun, nofun⟩
    | descend => exact ⟨rfl, nofun, nofun⟩

theorem otherVisits_apart {node : ObjectNode α} {members : List (String × Value)}
    (distinct : (members.map (·.1)).Nodup) {visits : List (Visit α)}
    (listed : node.otherVisits members = .ok visits)
    : Visit.Apart visits := by
  induction members generalizing visits with
  | nil =>
      obtain rfl := Except.ok.inj listed
      exact List.Pairwise.nil
  | cons member rest ih =>
      obtain ⟨name, value⟩ := member
      obtain ⟨fresh, later⟩ := List.nodup_cons.mp distinct
      simp only [otherVisits, bind_eq_ok_iff, pure_eq_ok_iff] at listed
      obtain ⟨first, listedFirst, others, listed, rfl⟩ := listed
      refine Visit.apart_append_of_members (memberVisits_apart listedFirst) (ih later listed)
        (fun visit visited =>
          ⟨_, List.mem_singleton_self _, (tag_of_mem_memberVisits listedFirst visited).1⟩)
        (fun visit visited => ?_) (List.forall_mem_singleton.mpr fresh)
      obtain ⟨name, value, found, present, listed, visited⟩ :=
        (mem_otherVisits_iff listed).mp visited
      exact ⟨name, List.mem_map_of_mem present, (tag_of_mem_memberVisits listed visited).1⟩

/-- The visits of an object whose names are distinct, as those of its node are, are apart. -/
theorem visits_apart {node : ObjectNode α} (distinct : node.Distinct)
    {members : List (String × Value)} (names : (members.map (·.1)).Nodup)
    {visits : List (Visit α)} (listed : node.visits members = .ok visits)
    : Visit.Apart visits := by
  simp only [ObjectNode.visits, bind_eq_ok_iff, pure_eq_ok_iff] at listed
  obtain ⟨others, listed, rfl⟩ := listed
  refine Visit.apart_append
    (Visit.apart_append (declaredVisits_apart _ members distinct.declared)
      (undeclaredVisits_apart members distinct.required) ?_)
    (otherVisits_apart names listed) ?_
  · intro visit visited other missing
    obtain ⟨entry, declared, visited⟩ := List.mem_flatMap.mp visited
    obtain ⟨name, absent, rfl⟩ := List.mem_map.mp missing
    obtain ⟨-, undeclared, -⟩ := mem_undeclared_iff.mp absent
    refine Visit.tag_ne_of_member_ne fun same => undeclared entry declared ?_
    exact Option.some.inj ((member_of_mem_declaredVisit visited).symm.trans same)
  · intro visit visited other present
    obtain ⟨name, value, found, -, listed, present⟩ := (mem_otherVisits_iff listed).mp present
    obtain ⟨-, notMissing, notDeclared⟩ := tag_of_mem_memberVisits listed present
    rcases List.mem_append.mp visited with visited | visited
    · obtain ⟨entry, declared, visited⟩ := List.mem_flatMap.mp visited
      rcases mem_declaredVisit_iff.mp visited with ⟨value, -, rfl⟩ | ⟨-, -, rfl⟩
      · exact (notDeclared _).symm
      · exact (notMissing _).symm
    · obtain ⟨label, -, rfl⟩ := List.mem_map.mp visited
      exact (notMissing _).symm

end ObjectNode

namespace Schema

/-- The visits of a schema with distinct names at a value with distinct names are apart. -/
theorem visits_apart {formats : Registries} {schema : Schema} {value : Value}
    {visits : List (Visit Schema)} (distinct : schema.Distinct) (names : value.Distinct)
    (listed : schema.visits formats value = .ok visits)
    : Visit.Apart visits := by
  simp only [Schema.visits, bind_eq_ok_iff] at listed
  obtain ⟨found, -, listed⟩ := listed
  cases found with
  | some complaint =>
      obtain rfl := pure_eq_ok_iff.mp listed
      exact List.pairwise_singleton _ _
  | none =>
      replace listed : schema.innerVisits value = .ok visits := listed
      unfold innerVisits at listed
      split at listed
      · obtain rfl := Except.ok.inj listed
        exact ArrayNode.visits_apart _ _
      · cases distinct with
        | object node =>
            cases names with
            | object members => exact ObjectNode.visits_apart node members listed
      · obtain rfl := Except.ok.inj listed
        exact List.Pairwise.nil

end Schema

end Assay
